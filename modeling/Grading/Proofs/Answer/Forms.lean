/-
What an answer earns by a line whose lists are unrolled in both forms, against what it earns by the
line.

* `Problem.otherFormBefore?`: the first other form of a list that an answer matches, among those of
  the alternatives before the one that it matches as they are written;
* `matched_withParentheses`: by the unrolled line this form decides, if there is one;
* `mark_withParentheses`: without one, the answer earns what it earns by the line, and with one, the
  share of the form;
* `lowers_points_withParentheses`: that may be less.
-/
import Grading.Proofs.Answer.Acceptance
import Grading.Proofs.Problem.Forms
import Grading.Proofs.Problem.Ratio

namespace Grading

variable {rules : Rules} {number line raw : Text} {a : Alternative} {p q : Problem}

/-! ### Other forms that decide -/

/-- The first other form of a list that the answer matches, among those of the alternatives before
the first that it matches as it is written. -/
def Problem.otherFormBefore? (rules : Rules) (p : Problem) (raw : Text) : Option Alternative :=
  (p.alternatives.takeWhile fun a => !a.accepts rules raw).findSome? fun a =>
    a.other?.filter fun b => b.accepts rules raw

/-- By the unrolled line, the other form that comes before decides. -/
lemma matched_withParentheses (rules : Rules) (hp : Problem.ofLine number line = .ok p)
    (hq : Problem.ofLine number (compileLine .withParentheses line) = .ok q) (raw : Text) :
    (q.mark rules raw).matched = (p.otherFormBefore? rules raw).or (p.mark rules raw).matched := by
  rw [Problem.matched_mark, Problem.matched_mark, Problem.otherFormBefore?,
    find?_alternatives_withParentheses hp hq]

lemma points_mark (h : (p.mark rules raw).matched = some a) :
    (p.mark rules raw).points = rules.pointValue * a.ratio := by
  rw [Problem.mark_eq_creditMark h]
  rfl

/-- The ratio of an alternative that decides is not larger than one. -/
lemma within_ratio_of_matched (hp : Problem.ofLine number line = .ok p)
    (h : (p.mark rules raw).matched = some a) : Within a.ratio 1 := by
  have hline : Problem.ofKeyLine ⟨number, line⟩ = .ok p := hp
  exact within_ratio hline (Problem.mem_of_matched h)

/-- **What both forms of lists change**: an answer that matches an alternative of a line matches one
of the line with both forms of its lists. If no other form comes before, it earns the same by both
lines. Otherwise that form decides and awards its share of the points, which is not less than by the
line if the form has no less credit than the alternative. -/
theorem mark_withParentheses (hp : Problem.ofLine number line = .ok p)
    (hvalue : 0 < rules.pointValue) (hmatched : (p.mark rules raw).matched = some a) :
    ∃ q, Problem.ofLine number (compileLine .withParentheses line) = .ok q
      ∧ match p.otherFormBefore? rules raw with
        | none => q.mark rules raw
            = { p.mark rules raw with diagnostics := (q.mark rules raw).diagnostics }
        | some b => (q.mark rules raw).matched = some b
            ∧ (q.mark rules raw).points = rules.pointValue * b.ratio
            ∧ (a.ratio ≤ b.ratio →
                ¬ (q.mark rules raw).points < (p.mark rules raw).points
                  ∧ (rules.pointValue.isFinite = true →
                      (p.mark rules raw).points ≤ (q.mark rules raw).points)) := by
  obtain ⟨q, hq⟩ := exists_ofLine_withParentheses hp
  have hdecides := matched_withParentheses rules hp hq raw
  refine ⟨q, hq, ?_⟩
  cases hbefore : p.otherFormBefore? rules raw with
  | none =>
      -- no other form comes first: the same alternative is matched
      rw [hbefore, Option.none_or, hmatched] at hdecides
      dsimp only
      rw [Problem.mark_eq_creditMark hdecides, Problem.mark_eq_creditMark hmatched,
        Problem.creditMark, Problem.creditMark, solution?_withParentheses hp hq]
  | some b =>
      -- another form comes first, with the ratio of its alternative
      rw [hbefore, Option.some_or] at hdecides
      have ha := within_ratio_of_matched hp hmatched
      have hb := within_ratio_of_matched hq hdecides
      refine ⟨hdecides, points_mark hdecides, fun hratio => ?_⟩
      rw [points_mark hdecides, points_mark hmatched]
      exact ⟨not_mul_lt_mul hvalue ha hb hratio, fun hfinite =>
        (within_self_of_pos hvalue hfinite).mul_le_mul ha hb hratio⟩

/-- A list in parentheses for a quarter of the points, after the list without them for half. -/
theorem mark_withParentheses_half :
    let line := "5,4; 0.5 & (5,4); 0.25".toList
    let raw := "(5,4)".toList
    ∃ p q, Problem.ofLine "1".toList line = .ok p
      ∧ Problem.ofLine "1".toList (compileLine .withParentheses line) = .ok q
      ∧ (p.mark {} raw).points ≤ (q.mark {} raw).points := by
  intro line raw
  have hratios : (Problem.ofLine "1".toList line).toOption.map (fun p =>
      ((p.mark {} raw).matched.map Alternative.ratio,
        (p.otherFormBefore? {} raw).map Alternative.ratio)) = some (some 0.25, some 0.5) := by
    decide +kernel
  obtain ⟨p, hp, hp'⟩ := toOption_map_eq_some_iff.mp hratios
  rw [Prod.mk.injEq, Option.map_eq_some_iff, Option.map_eq_some_iff] at hp'
  obtain ⟨⟨a, ha, hquarter⟩, b, hb, hhalf⟩ := hp'
  have hratio : a.ratio ≤ b.ratio := by
    rw [hquarter, hhalf]
    decide +kernel
  obtain ⟨q, hq, hmark⟩ := mark_withParentheses hp (by decide) ha
  rw [hb] at hmark
  exact ⟨p, q, hp, hq, (hmark.2.2 hratio).2 (by decide)⟩

/-- All the points for a list in parentheses, after the list without them for half: with both forms
of the list, the answer in parentheses earns half. -/
theorem lowers_points_withParentheses :
    let line := "5,4; 0.5 & (5,4)".toList
    let raw := "(5,4)".toList
    0 < ({} : Rules).pointValue
      ∧ ∃ p q, Problem.ofLine "1".toList line = .ok p
        ∧ Problem.ofLine "1".toList (compileLine .withParentheses line) = .ok q
        ∧ (p.mark {} raw).matched.isSome = true
        ∧ (p.mark {} raw).points = 1 ∧ (q.mark {} raw).points = 0.5
        ∧ ¬ (p.mark {} raw).points ≤ (q.mark {} raw).points := by
  intro line raw
  have hline : (Problem.ofLine "1".toList line).toOption.map (fun p =>
      ((p.mark {} raw).matched.isSome, (p.mark {} raw).points)) = some (true, 1) := by
    decide +kernel
  have hunrolled : (Problem.ofLine "1".toList (compileLine .withParentheses line)).toOption.map
      (fun q => (q.mark {} raw).points) = some 0.5 := by
    decide +kernel
  obtain ⟨p, hp, hp'⟩ := toOption_map_eq_some_iff.mp hline
  obtain ⟨q, hq, hhalf⟩ := toOption_map_eq_some_iff.mp hunrolled
  obtain ⟨hmatched, hone⟩ := Prod.mk.inj hp'
  refine ⟨by decide, p, q, hp, hq, hmatched, hone, hhalf, ?_⟩
  rw [hone, hhalf]
  decide +kernel

end Grading
