/-
Which shares of the points lie between zero and one.

* `Key.HasNonnegativeRatios`: no alternative of the key takes points away, so no mark does
  (`ProblemMark.Consistent.points_nonneg`);
* `percentage_between`, `isNaN_percentage`: finite points are a share between zero and one of those
  of the whole key, even if these are infinite, and infinite points are no share of them;
* `isFinite_fullPoints`: the points of the whole key are finite, unless a problem is worth a number
  of hundreds of digits;
* `percentage_between_iff`: so the share lies between zero and one exactly if the points are finite.
-/
import Grading.Proofs.Submission.Consistent
import Grading.Proofs.Submission.Points

namespace Grading

open Binary64 (limit value)

variable {settings : Settings} {rules : Rules} {s : Submission} {report : Report} {key : Key}
  {line : NumberedLine} {problem : ProblemMark}

/-! ### Keys that take no points away -/

/-- Whether no alternative of a key has a negative ratio. -/
def Key.HasNonnegativeRatios (key : Key) : Prop :=
  ∀ line ∈ key, ∀ p, Problem.ofKeyLine line = .ok p → ∀ a ∈ p.alternatives, 0 ≤ a.ratio

instance (key : Key) : Decidable key.HasNonnegativeRatios :=
  decidable_of_iff (∀ line ∈ key, ∀ p ∈ (Problem.ofKeyLine line).toOption,
      ∀ a ∈ p.alternatives, 0 ≤ a.ratio) <| by
    refine forall₂_congr fun line _ => forall_congr' fun p => imp_congr_left ?_
    cases Problem.ofKeyLine line <;> simp [Except.toOption]

/-- Under such a key, no mark takes points away. -/
lemma ProblemMark.Consistent.points_nonneg (hvalue : Within rules.pointValue rules.pointValue)
    (hratios : key.HasNonnegativeRatios) (hline : line ∈ key) (h : problem.Consistent rules line) :
    0 ≤ value problem.mark.points := by
  obtain ⟨verdict, hshape, -⟩ := h.shape
  cases verdict with
  | correct =>
      obtain ⟨-, -, -, -, hpoints, -⟩ := hshape
      rw [hpoints]
      exact hvalue.value_mul_nonneg within_one_self (by decide)
  | partialCredit =>
      obtain ⟨-, a, ha, hlow, hhigh, hpoints, -⟩ := hshape
      obtain ⟨p, hp, hmem⟩ := h.matched a ha
      rw [hpoints]
      exact hvalue.value_mul_nonneg (within_of_between hlow hhigh) (hratios line hline p hp a hmem)
  | incorrect =>
      obtain ⟨-, -, hpoints, -⟩ := hshape
      rw [hpoints]
      exact Binary64.value_zero.ge

/-- Nor does a report. -/
lemma value_total_nonneg (hvalue : Within rules.pointValue rules.pointValue)
    (hratios : key.HasNonnegativeRatios) (h : s.grade rules key = .ok report) :
    0 ≤ value report.total := by
  obtain ⟨problems, hmarks, rfl⟩ := Submission.exists_marks_of_grade h
  refine value_sum_nonneg (List.forall_mem_map.mpr fun problem hproblem => ?_)
  obtain ⟨line, hline, answer?, -, rfl⟩ := exists_expectedMark_of_mem hmarks hproblem
  exact (consistent_expectedMark rules answer? line).points_nonneg hvalue hratios hline

/-! ### Shares of the points -/

/-- Finite points are a share between zero and one, of infinite points too. -/
lemma percentage_between (htotal : report.total.isFinite = true) (hnonneg : 0 ≤ value report.total)
    (hwithin : report.maxPoints.isFinite = true → Within report.total report.maxPoints)
    (hmax : report.maxPoints.isNaN = false) : 0 ≤ report.percentage ∧ report.percentage ≤ 1 := by
  rw [Report.percentage]
  split
  case isTrue => decide
  case isFalse hzero =>
    cases hfinite : report.maxPoints.isFinite with
    | true =>
        have hne : value report.maxPoints ≠ 0 := fun h =>
          hzero ((Binary64.beq_iff_value_eq hfinite (by decide)).mpr
            (h.trans Binary64.value_zero.symm))
        have hfull := hwithin hfinite
        exact between_of_within_one (hfull.div hfinite hne)
          ((Binary64.rounds_div htotal hfinite hne).value_nonneg (div_nonneg hnonneg hfull.nonneg))
    | false =>
        -- the quotient by an infinite number is a zero
        have hinf : report.maxPoints.isInf = true := by
          by_contra h
          rw [Decimal.isFinite_of_isNaN_isInf hmax (Bool.eq_false_of_not_eq_true h)] at hfinite
          cases hfinite
        obtain ⟨sign, hshare⟩ := Decimal.exists_unpack_div_eq_zero htotal hinf
        exact between_of_within_one (within_of_zero hshare within_one_self.nonneg)
          (Binary64.value_of_zero hshare).ge

/-- Infinite points are no share of infinite points. -/
lemma isNaN_percentage (htotal : report.total.isFinite = false)
    (hmax : report.maxPoints.isFinite = false) : report.percentage.isNaN = true := by
  have hzero : ¬ (report.maxPoints == 0) = true := fun h => by
    rw [Decimal.isFinite_of_beq_zero h] at hmax
    cases hmax
  rw [Report.percentage, if_neg hzero]
  exact Decimal.isNaN_div_of_not_isFinite htotal hmax

/-- The points of fewer than `2 ^ 53` problems, each of them up to `1e292`, are finite. -/
lemma isFinite_fullPoints {n : ℕ} (hvalue : Within rules.pointValue rules.pointValue)
    (hsmall : rules.pointValue ≤ 1e292) (hn : n < 2 ^ 53) :
    (sum (List.replicate n rules.pointValue)).isFinite = true := by
  have hpower : value 1e292 ≤ 2 ^ (971 : ℤ) := by decide +kernel
  rw [Binary64.le_iff_value_le hvalue.isFinite (by decide +kernel)] at hsmall
  have hlimit : (n : ℚ) * 2 ^ (971 : ℤ) < limit := by
    have hn' : (n : ℚ) < 2 ^ (53 : ℤ) := by exact_mod_cast hn
    calc (n : ℚ) * 2 ^ (971 : ℤ) < 2 ^ (53 : ℤ) * 2 ^ (971 : ℤ) :=
          mul_lt_mul_of_pos_right hn' (Binary64.two_zpow_pos _)
      _ = limit := Binary64.two_zpow_mul 53 971
  exact (sum_replicate_le hvalue.isFinite hvalue.nonneg (hsmall.trans hpower) (by decide) hn
    hlimit).1

/-- **Which shares of the points are between zero and one**: under settings that can be used and a
key that takes no points away, exactly those of finite points; and that of infinite points is no
number at all. Points are finite if a problem is worth up to `1e292`. -/
theorem percentage_between_iff (hvalid : settings.invalid? = none)
    (hratios : key.HasNonnegativeRatios) (h : s.grade settings.rules key = .ok report) :
    (0 ≤ report.percentage ∧ report.percentage ≤ 1 ↔ report.total.isFinite = true)
      ∧ (report.percentage.isNaN = true ↔ report.total.isFinite = false)
      ∧ (settings.rules.pointValue ≤ 1e292 → key.length < 2 ^ 53 →
          0 ≤ report.percentage ∧ report.percentage ≤ 1) := by
  have hvalue := within_pointValue hvalid
  obtain ⟨hmax, hwithin, -⟩ := sums_of_grade hvalue h
  have hnan : report.maxPoints.isNaN = false := by
    rw [hmax]
    exact isNaN_sum fun x hx => (List.eq_of_mem_replicate hx).symm ▸ hvalue.isFinite
  -- a finite total is at most the maximum
  have hbetween (htotal : report.total.isFinite = true) :
      0 ≤ report.percentage ∧ report.percentage ≤ 1 :=
    percentage_between htotal (value_total_nonneg hvalue hratios h) hwithin hnan
  -- an infinite one is divided by an infinite maximum
  have hnone (htotal : report.total.isFinite = false) : report.percentage.isNaN = true := by
    refine isNaN_percentage htotal (Bool.eq_false_of_not_eq_true fun hfinite => ?_)
    rw [(hwithin hfinite).isFinite] at htotal
    cases htotal
  have hnot (htotal : report.percentage.isNaN = true) :
      ¬ (0 ≤ report.percentage ∧ report.percentage ≤ 1) :=
    fun hle => Binary64.not_le_of_isNaN htotal hle.1
  refine ⟨⟨fun hle => ?_, hbetween⟩, ⟨fun hshare => ?_, hnone⟩, fun hsmall hlength => ?_⟩
  · by_contra htotal
    exact hnot (hnone (Bool.eq_false_of_not_eq_true htotal)) hle
  · exact Bool.eq_false_of_not_eq_true fun htotal => hnot hshare (hbetween htotal)
  · have hfinite : report.maxPoints.isFinite = true := by
      rw [hmax]
      exact isFinite_fullPoints hvalue hsmall hlength
    exact hbetween (hwithin hfinite).isFinite

/-- Half of the points for one problem and all of them for another, each worth as much as is sure
to be fine. -/
theorem percentage_between_large_points :
    let settings : Settings := { rules := { pointValue := 1e292 } }
    let key := Key.ofText "1. a; 0.5 & b\n2. c".toList
    ∃ report, Submission.grade settings.rules key ⟨[], "1. a\n2. c".toList⟩ = .ok report
      ∧ report.total < report.maxPoints ∧ 0 ≤ report.percentage ∧ report.percentage ≤ 1 := by
  intro settings key
  have hless : (Submission.grade settings.rules key ⟨[], "1. a\n2. c".toList⟩).toOption.map
      (fun report => decide (report.total < report.maxPoints)) = some true := by
    decide +kernel
  obtain ⟨report, hreport, hless'⟩ := toOption_map_eq_some_iff.mp hless
  have hvalid : settings.invalid? = none := by decide +kernel
  have hratios : key.HasNonnegativeRatios := by decide +kernel
  obtain ⟨-, -, hsmall⟩ := percentage_between_iff hvalid hratios hreport
  exact ⟨report, hreport, of_decide_eq_true hless', hsmall (by decide +kernel) (by decide +kernel)⟩

/-- Two correct answers, each worth so much that their sum is infinite: all of the points are no
share of all of the points. -/
theorem percentage_two_huge_problems :
    let settings : Settings := { rules := { pointValue := 1e308 } }
    let key := Key.ofText "1. a\n2. b".toList
    settings.invalid? = none ∧ key.HasNonnegativeRatios
      ∧ ∃ report, Submission.grade settings.rules key ⟨[], "1. a\n2. b".toList⟩ = .ok report
        ∧ report.percentage.isNaN = true ∧ ¬ (0 ≤ report.percentage ∧ report.percentage ≤ 1) := by
  intro settings key
  have hshare : (Submission.grade settings.rules key ⟨[], "1. a\n2. b".toList⟩).toOption.map
      (fun report => report.percentage.isNaN) = some true := by
    decide +kernel
  obtain ⟨report, hreport, hnan⟩ := toOption_map_eq_some_iff.mp hshare
  refine ⟨by decide +kernel, by decide +kernel, report, hreport, hnan, fun hle => ?_⟩
  exact Binary64.not_le_of_isNaN hnan hle.1

end Grading
