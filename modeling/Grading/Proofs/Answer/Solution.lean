/-
Whether the solution that students are shown is itself accepted.

* `matchLists_of_readNumber?`: a number is no list;
* `Alternative.bounds_of_ofLine`: an alternative without a range admits the distance zero only;
* `accepts_solution_iff`: the solution is accepted if its normal form is no number or a finite one;
  one that is read as infinite is accepted exactly if an alternative around another number admits
  an infinite distance;
* `rejects_huge_solution`: a number with hundreds of digits is rejected as its own solution.
-/
import Grading.Proofs.Answer.Acceptance
import Grading.Proofs.Answer.Normal
import Grading.Proofs.Key.Numbered
import Grading.Proofs.Problem.Reading

namespace Grading

open Decimal (isDigit powerOfTen)

variable {rules : Rules} {a : Alternative} {p : Problem} {number line solution s : Text}
variable {x y : Float} {c : Char}

/-! ### Numbers as answers -/

/-- A number is no list. -/
lemma matchLists_of_readNumber? (h : readNumber? s = some x) (accepted : Text) :
    rules.matchLists s accepted = false := by
  have hcomma : s.contains ',' = false := by
    rw [List.contains_eq_mem, decide_eq_false_iff_not]
    exact notMem_of_readNumber? h (by decide) (by decide)
  rw [Rules.matchLists, hcomma, Bool.and_false, Bool.false_and]

/-! ### The alternatives of a line -/

/-- Without a range, the distances that are admitted begin and end at zero. -/
lemma Alternative.bounds_of_ofLine (hp : Problem.ofLine number line = .ok p)
    (ha : a ∈ p.alternatives) (hrange : a.hasRange = false) : a.low = 0 ∧ a.high = 0 := by
  obtain ⟨value, tags, rfl, -⟩ := exists_eq_ofTags hp ha
  rw [ofTags] at hrange ⊢
  cases hlast : (tags.filterMap Tag.range?).getLast? with
  | none => exact ⟨rfl, rfl⟩
  | some range => rw [hlast] at hrange; cases hrange

/-! ### Distances -/

lemma Alternative.admits_zero (h : a.low = 0 ∧ a.high = 0) : a.admits 0 = true := by
  rw [admits, h.1, h.2]
  decide

/-- Where there is no distance nothing is admitted. -/
lemma Alternative.admits_of_isNaN (a : Alternative) (hx : x.isNaN = true) :
    a.admits x = false := by
  have hle : ¬ x ≤ a.high + slack := by
    intro h
    have hcompare : x.toModel.unpack.le (a.high + slack).toModel.unpack = true :=
      of_decide_eq_true h
    rw [Decimal.unpack_eq_notANumber hx] at hcompare
    cases hcompare
  rw [admits, decide_eq_false hle, Bool.and_false]

/-- A number matches by its distance from another number, and in no other way. -/
lemma Alternative.isSome_match?_of_number {accepted answer : Text}
    (hanswer : readNumber? answer = some x) :
    (a.match? rules accepted answer).isSome = true
      ↔ ∃ y, readNumber? accepted = some y ∧ a.admits (x - y).abs = true := by
  rw [isSome_match?_iff, matchLists_of_readNumber? hanswer, or_iff_left Bool.false_ne_true]
  constructor
  · rintro (⟨y, given, haccepted, hgiven, hadmits⟩ | ⟨hnone, rfl⟩)
    · obtain rfl : x = given := Option.some.inj (hanswer.symm.trans hgiven)
      exact ⟨y, haccepted, hadmits⟩
    · rw [hanswer] at hnone
      rcases hnone with hnone | hnone <;> cases hnone
  · rintro ⟨y, haccepted, hadmits⟩
    exact Or.inl ⟨y, x, haccepted, hanswer, hadmits⟩

/-- An infinite number matches an alternative around another number that admits an infinite
distance, and nothing else. -/
lemma Alternative.isSome_match?_of_isInf {accepted answer : Text}
    (hanswer : readNumber? answer = some x) (hx : x.isInf = true) :
    (a.match? rules accepted answer).isSome = true
      ↔ ∃ y, readNumber? accepted = some y ∧ (y == x) = false ∧ a.admits (1 / 0) = true := by
  rw [isSome_match?_of_number hanswer]
  constructor
  · rintro ⟨y, haccepted, hadmits⟩
    have hy := Decimal.isNaN_readNumber? haccepted
    cases hxy : y == x with
    | true =>
        -- from an equal infinity there is no distance
        have hnan := Decimal.isNaN_abs_sub_of_beq hx hxy
        rw [a.admits_of_isNaN hnan] at hadmits
        cases hadmits
    | false =>
        rw [Decimal.abs_sub_eq_infinity hx hy hxy] at hadmits
        exact ⟨y, haccepted, hxy, hadmits⟩
  · rintro ⟨y, haccepted, hxy, hadmits⟩
    have hy := Decimal.isNaN_readNumber? haccepted
    refine ⟨y, haccepted, ?_⟩
    rw [Decimal.abs_sub_eq_infinity hx hy hxy]
    exact hadmits

/-- An alternative without a range matches its own value, unless that is an infinite number. -/
lemma Alternative.isSome_match?_self {accepted : Text} (hbounds : a.low = 0 ∧ a.high = 0)
    (hfinite : ∀ x, readNumber? accepted = some x → x.isInf = false) :
    (a.match? rules accepted accepted).isSome = true := by
  rw [isSome_match?_iff]
  cases hread : readNumber? accepted with
  | none => exact Or.inr ⟨Or.inl rfl, Or.inl rfl⟩
  | some x =>
      have hx := Decimal.isFinite_of_isNaN_isInf (Decimal.isNaN_readNumber? hread) (hfinite x hread)
      refine Or.inl ⟨x, x, rfl, rfl, ?_⟩
      rw [Decimal.abs_sub_self_of_isFinite hx]
      exact admits_zero hbounds

/-! ### The solution -/

lemma exists_of_solution? (h : p.solution? = some solution) :
    ∃ a ∈ p.alternatives, a.hasRange = false ∧ a.value = solution := by
  rw [Problem.solution?, Option.map_eq_some_iff] at h
  obtain ⟨a, hfind, hvalue⟩ := h
  have hcredit := List.find?_some hfind
  rw [Alternative.isFullCredit, Bool.and_eq_true, Bool.not_eq_true'] at hcredit
  exact ⟨a, List.mem_of_find?_eq_some hfind, hcredit.1, hvalue⟩

/-- **The solution as an answer**: the solution of a key line is accepted if its normal form is no
number or a finite one. If it is a number that is read as infinite, then it is accepted exactly if
an alternative around another number admits an infinite distance. -/
theorem accepts_solution_iff (rules : Rules) (hp : Problem.ofLine number line = .ok p)
    (hsolution : p.solution? = some solution) :
    p.Accepts rules solution
      ↔ ∀ x, readNumber? (normalize rules solution).text = some x → x.isInf = true →
          ∃ a ∈ p.alternatives, ∃ y, readNumber? (normalize rules a.value).text = some y
            ∧ (y == x) = false ∧ a.admits (1 / 0) = true := by
  obtain ⟨a, ha, hrange, hvalue⟩ := exists_of_solution? hsolution
  have hbounds := Alternative.bounds_of_ofLine hp ha hrange
  rw [Problem.accepts_iff]
  constructor
  · rintro ⟨b, hb, hmatch⟩ x hread hx
    exact ⟨b, hb, (Alternative.isSome_match?_of_isInf hread hx).mp hmatch⟩
  · intro h
    by_cases hinf : ∃ x, readNumber? (normalize rules solution).text = some x ∧ x.isInf = true
    · obtain ⟨x, hread, hx⟩ := hinf
      obtain ⟨b, hb, hother⟩ := h x hread hx
      exact ⟨b, hb, (Alternative.isSome_match?_of_isInf hread hx).mpr hother⟩
    · -- a solution that is not infinite is accepted where it was taken from
      refine ⟨a, ha, ?_⟩
      rw [hvalue]
      refine Alternative.isSome_match?_self hbounds fun x hread => ?_
      rw [← Bool.not_eq_true]
      exact fun hx => hinf ⟨x, hread, hx⟩

/-- A fraction by zero is no number, and is accepted as it stands. -/
theorem accepts_solution_undefined :
    let p : Problem := ⟨"1".toList, [.ofTags "2/0".toList [.feedback "Nice work".toList],
      .ofTags "none".toList []]⟩
    Problem.ofLine "1".toList "2/0; Nice work & none".toList = .ok p
      ∧ p.solution? = some "2/0".toList
      ∧ p.Accepts {} "2/0".toList := by
  intro p
  have hp : Problem.ofLine "1".toList "2/0; Nice work & none".toList = .ok p := by rfl
  have hsolution : p.solution? = some "2/0".toList := by rfl
  refine ⟨hp, hsolution, (accepts_solution_iff {} hp hsolution).mpr fun x hread => ?_⟩
  have hnone : readNumber? (normalize {} "2/0".toList).text = none := by rfl
  rw [hnone] at hread
  cases hread

/-- A number with hundreds of digits is rejected as its own solution. -/
theorem rejects_huge_solution :
    ∃ p, Problem.ofLine "1".toList (powerOfTen 400) = .ok p
      ∧ p.solution? = some (powerOfTen 400) ∧ ¬ p.Accepts {} (powerOfTen 400) := by
  have hread := Decimal.readNumber?_powerOfTen (show 310 ≤ 400 by decide)
  refine ⟨_, (canonical_powerOfTen 400).ofLine _, rfl, fun h => ?_⟩
  obtain ⟨a, ha, hmatch⟩ := Problem.accepts_iff.mp h
  obtain rfl := List.mem_singleton.mp ha
  simp only [Alternative.ofTags, normalize_powerOfTen] at hmatch
  obtain ⟨y, hy, hne, -⟩ := (Alternative.isSome_match?_of_isInf hread (by decide)).mp hmatch
  obtain rfl : 1 / 0 = y := Option.some.inj (hread.symm.trans hy)
  exact absurd hne (by decide)

end Grading
