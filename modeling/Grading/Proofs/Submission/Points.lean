/-
How large points can be.

* `within_sum`: sums of numbers are within the sums of those that they are within;
* `value_sum_nonneg`, `isNaN_sum`: sums of finite numbers are numbers, and not negative if those are
  not;
* `sum_replicate_le`: the sum of a number of equal points is finite, if they are not too large;
* `Mark.Sound`, `sound_of_mem_marks`: a mark awards no more than the points of a problem;
* `within_pointValue`: the points of settings that can be used are finite;
* `sums_of_grade`: the points of a report are the same for all problems of the key, and what is
  awarded is not larger.
-/
import Grading.Proofs.Answer.Acceptance
import Grading.Proofs.Problem.Ratio
import Grading.Proofs.Submission.Lockstep
import Grading.Settings.Basic

namespace Grading

open Binary64 (limit value)

variable {settings : Settings} {rules : Rules} {s : Submission} {report : Report}
variable {answers : List NumberedLine} {key : Key} {line : NumberedLine} {p : Problem}

/-! ### Sums -/

lemma sum_append_singleton (xs : List Float) (x : Float) : sum (xs ++ [x]) = sum xs + x := by
  rw [sum, sum, List.foldl_append]
  rfl

/-- If each number is within another, then so are their sums, unless those become too large. -/
lemma within_sum {α : Type} {f g : α → Float} {l : List α} (h : ∀ a ∈ l, Within (f a) (g a))
    (hfinite : (sum (l.map g)).isFinite = true) : Within (sum (l.map f)) (sum (l.map g)) := by
  induction l using List.reverseRecOn with
  | nil =>
      have hnone : Within (sum []) (sum []) := ⟨by decide, by decide +kernel⟩
      exact hnone
  | append_singleton l a ih =>
      -- a sum is finite only if the sum of the numbers before the last is
      simp only [List.map_append, List.map_singleton, sum_append_singleton] at hfinite ⊢
      have hrest := ih (fun a ha => h a (List.mem_append_left _ ha))
        (Binary64.isFinite_of_add hfinite).1
      exact hrest.add (h a (by simp)) hfinite

/-- A sum of numbers that are not negative is not negative. -/
lemma value_sum_nonneg {xs : List Float} (h : ∀ x ∈ xs, 0 ≤ value x) : 0 ≤ value (sum xs) := by
  induction xs using List.reverseRecOn with
  | nil => exact (Binary64.value_of_zero (s := .negative) rfl).ge
  | append_singleton xs x ih =>
      rw [sum_append_singleton]
      have hrest := ih fun y hy => h y (List.mem_append_left _ hy)
      exact Binary64.value_add_nonneg hrest (h x (by simp))

/-- A sum of finite numbers is a number, be it infinite. -/
lemma isNaN_sum {xs : List Float} (h : ∀ x ∈ xs, x.isFinite = true) : (sum xs).isNaN = false := by
  induction xs using List.reverseRecOn with
  | nil => rfl
  | append_singleton xs x ih =>
      rw [sum_append_singleton, Decimal.isNaN_add_of_isFinite _ (h x (by simp))]
      exact ih fun y hy => h y (List.mem_append_left _ hy)

/-- A number up to a power of two can be added to itself as long as the multiples of the power have
no more than 53 digits and are not too large. -/
lemma sum_replicate_le {x : Float} {e : ℤ} {n : ℕ} (hx : x.isFinite = true) (hlow : 0 ≤ value x)
    (hhigh : value x ≤ 2 ^ e) (he : -1074 ≤ e) (hn : n < 2 ^ 53)
    (hlimit : (n : ℚ) * 2 ^ e < limit) :
    (sum (List.replicate n x)).isFinite = true
      ∧ value (sum (List.replicate n x)) ≤ n * 2 ^ e := by
  induction n with
  | zero =>
      have hzero : (-0.0 : Float).isFinite = true ∧ value (-0.0) ≤ (0 : ℕ) * 2 ^ e := by
        rw [Nat.cast_zero, zero_mul]
        exact ⟨by decide, (Binary64.value_of_zero (s := .negative) rfl).le⟩
      exact hzero
  | succ n ih =>
      have hmultiple : (n : ℚ) * 2 ^ e + 2 ^ e = (n + 1 : ℕ) * 2 ^ e := by
        push_cast
        ring
      have hpower := Binary64.two_zpow_pos e
      obtain ⟨hfinite, hle⟩ := ih (by omega) (by linarith)
      have hnonneg : 0 ≤ value (sum (List.replicate n x)) :=
        value_sum_nonneg fun y hy => (List.eq_of_mem_replicate hy).symm ▸ hlow
      -- the next sum is rounded, but not beyond the next multiple
      rw [List.replicate_succ', sum_append_singleton]
      exact (Binary64.rounds_add hfinite hx).le_of_le (add_nonneg hnonneg hlow)
        ((add_le_add hle hhigh).trans_eq hmultiple) (Binary64.roundedSize_of_lt hn he) hlimit

/-! ### Marks -/

/-- Whether a mark awards no more than the points of a problem, by an alternative of the key. -/
structure Mark.Sound (rules : Rules) (key : Key) (m : Mark) : Prop where
  /-- All problems have the same points. -/
  maxPoints_eq : m.maxPoints = rules.pointValue
  /-- What is awarded. -/
  points : Within m.points rules.pointValue
  /-- The alternative that is matched. -/
  matched : ∀ a, m.matched = some a →
    ∃ line ∈ key, ∃ p, Problem.ofKeyLine line = .ok p ∧ a ∈ p.alternatives

/-- A mark without points. -/
lemma Mark.Sound.of_zero {m : Mark} (hvalue : Within rules.pointValue rules.pointValue)
    (hmax : m.maxPoints = rules.pointValue) (hpoints : m.points = 0) (hmatched : m.matched = none) :
    m.Sound rules key where
  maxPoints_eq := hmax
  points := hpoints ▸ within_zero hvalue.nonneg
  matched a ha := by
    rw [hmatched] at ha
    cases ha

/-- What an answer earns. -/
lemma sound_mark (hvalue : Within rules.pointValue rules.pointValue) (hline : line ∈ key)
    (hp : Problem.ofKeyLine line = .ok p) (raw : Text) : (p.mark rules raw).Sound rules key := by
  cases hmatched : (p.mark rules raw).matched with
  | none =>
      rw [Problem.mark_eq_incorrectMark hmatched]
      exact .of_zero hvalue rfl rfl rfl
  | some a =>
      have hmem := Problem.mem_of_matched hmatched
      rw [Problem.mark_eq_creditMark hmatched]
      refine ⟨rfl, hvalue.mul (within_ratio hp hmem), ?_⟩
      rintro _ ⟨⟩
      exact ⟨line, hline, p, hp, hmem⟩

/-- The mark of a key line. -/
lemma sound_expectedMark (hvalue : Within rules.pointValue rules.pointValue) (hline : line ∈ key)
    (answer? : Option NumberedLine) : (expectedMark rules answer? line).mark.Sound rules key := by
  rw [expectedMark.eq_def]
  split
  case h_1 answer p _ hp => exact sound_mark hvalue hline hp answer.text
  case h_2 => exact .of_zero hvalue rfl rfl rfl

/-- The marks of all key lines. -/
lemma sound_of_mem_marks {problems : List ProblemMark}
    (hvalue : Within rules.pointValue rules.pointValue)
    (h : marks rules answers key = .ok problems) :
    problems.length = key.length ∧ ∀ problem ∈ problems, problem.mark.Sound rules key := by
  refine ⟨?_, fun problem hproblem => ?_⟩
  · rw [eq_of_marks h, List.length_mapIdx]
  · obtain ⟨line, hline, answer?, -, rfl⟩ := exists_expectedMark_of_mem h hproblem
    exact sound_expectedMark hvalue hline answer?

/-! ### Reports -/

/-- The points of settings that can be used are finite and not negative. -/
lemma within_pointValue (h : settings.invalid? = none) :
    Within settings.rules.pointValue settings.rules.pointValue := by
  rw [Settings.invalid?] at h
  split_ifs at h with hnone hvalue
  rw [Bool.and_eq_true, decide_eq_true_eq] at hvalue
  obtain ⟨hfinite, hpos⟩ := hvalue
  have hlt := (Binary64.lt_iff_value_lt (by decide) hfinite).mp hpos
  rw [Binary64.value_zero] at hlt
  exact ⟨hfinite, (abs_of_pos hlt).le⟩

/-- **The sums of a report**: the points of a submission are those of all problems of the key, and
if their sum is finite, then what is awarded is within it. -/
lemma sums_of_grade (hvalue : Within rules.pointValue rules.pointValue)
    (h : s.grade rules key = .ok report) :
    report.maxPoints = sum (List.replicate key.length rules.pointValue)
      ∧ (report.maxPoints.isFinite = true → Within report.total report.maxPoints)
      ∧ ∀ problem ∈ report.problems, problem.mark.Sound rules key := by
  obtain ⟨problems, hmarks, rfl⟩ := Submission.exists_marks_of_grade h
  obtain ⟨hlength, hsound⟩ := sound_of_mem_marks hvalue hmarks
  refine ⟨?_, within_sum fun problem hproblem => ?_, hsound⟩
  · have hmax : problems.map (fun problem => problem.mark.maxPoints)
        = List.replicate key.length rules.pointValue := by
      rw [← hlength, ← List.map_const']
      exact List.map_congr_left fun problem hproblem => (hsound problem hproblem).maxPoints_eq
    rw [Report.ofMarks, hmax]
  · have hproblem' := hsound problem hproblem
    exact hproblem'.maxPoints_eq.symm ▸ hproblem'.points

end Grading
