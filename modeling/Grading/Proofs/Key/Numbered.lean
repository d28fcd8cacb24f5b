/-
Lines with a number in front.

* `Text.cut?_eq_some_iff`: the parts before and after the first occurrence of a character;
* `numbered?_eq_some_iff`: a line has a number if a label stands in front of its first point;
* `numbered?_label_append`: a label, a point and anything else make a numbered line;
* `numbered?_eq_none_of_append`: what follows a text with a character that no label holds does not
  give the text a number.
-/
import Grading.Key.Line
import Grading.Proofs.Text.Trim

namespace Grading

namespace Text

variable {c : Char} {a b s t : Text}

lemma cut?_append_cons (h : c ∉ a) (b : Text) : cut? c (a ++ c :: b) = some (a, b) := by
  induction a with
  | nil => simp [cut?]
  | cons x a ih =>
      have hx : x ≠ c := fun hx => h (by simp [hx])
      rw [List.cons_append, cut?, if_neg hx, ih fun ha => h (List.mem_cons_of_mem _ ha)]
      rfl

lemma cut?_eq_none (h : c ∉ s) : cut? c s = none := by
  induction s with
  | nil => rfl
  | cons x s ih =>
      have hx : x ≠ c := fun hx => h (by simp [hx])
      rw [cut?, if_neg hx, ih fun hs => h (List.mem_cons_of_mem _ hs), Option.map_none]

/-- The parts before and after the first occurrence of a character. -/
lemma cut?_eq_some_iff : cut? c s = some (a, b) ↔ s = a ++ c :: b ∧ c ∉ a := by
  refine ⟨fun h => ?_, fun ⟨hs, ha⟩ => hs ▸ cut?_append_cons ha b⟩
  by_cases hc : c ∈ s
  · obtain ⟨a', b', rfl, ha'⟩ := List.eq_append_cons_of_mem hc
    rw [cut?_append_cons ha'] at h
    simp only [Option.some.injEq, Prod.mk.injEq] at h
    obtain ⟨rfl, rfl⟩ := h
    exact ⟨rfl, ha'⟩
  · rw [cut?_eq_none hc] at h
    exact absurd h (by simp)

end Text

/-! ### Labels -/

variable {label line text : Text} {c : Char}

/-- Letters and digits by their code points. -/
lemma toNat_of_isAlphanum (h : c.isAlphanum = true) :
    (65 ≤ c.toNat ∧ c.toNat ≤ 90) ∨ (97 ≤ c.toNat ∧ c.toNat ≤ 122)
      ∨ 48 ≤ c.toNat ∧ c.toNat ≤ 57 := by
  change ((decide ('A'.val ≤ c.val ∧ c.val ≤ 'Z'.val) || decide ('a'.val ≤ c.val) &&
    decide (c.val ≤ 'z'.val)) || decide ('0'.val ≤ c.val) && decide (c.val ≤ '9'.val)) = true at h
  simp only [Bool.or_eq_true, Bool.and_eq_true, decide_eq_true_eq, UInt32.le_iff_toNat_le] at h
  exact or_assoc.mp h

lemma isBlank_eq_false_of_isAlphanum (h : c.isAlphanum = true) : Text.isBlank c = false := by
  have hrange := toNat_of_isAlphanum h
  rw [Text.isBlank, Text.inRanges, List.any_eq_false]
  intro r hr
  simp only [Text.blankRanges, List.mem_cons, List.not_mem_nil, or_false] at hr
  rcases hr with rfl | rfl | rfl | rfl | rfl | rfl | rfl | rfl | rfl | rfl <;> simp <;> omega

lemma isLabel_iff : isLabel label = true ↔ label ≠ [] ∧ ∀ c ∈ label, c.isAlphanum = true := by
  simp [isLabel]

lemma tight_of_isLabel (h : isLabel label = true) : label.Tight := by
  have hall := (isLabel_iff.mp h).2
  exact ⟨fun c hc => isBlank_eq_false_of_isAlphanum (hall c (List.mem_of_mem_head? hc)),
    fun c hc => isBlank_eq_false_of_isAlphanum (hall c (List.mem_of_getLast? hc))⟩

lemma dot_notMem_of_isLabel (h : isLabel label = true) : '.' ∉ label :=
  fun hmem => absurd ((isLabel_iff.mp h).2 '.' hmem) (by decide)

/-! ### Lines with a number -/

lemma numbered?_eq_some_iff :
    numbered? line = some (label, text) ↔
      ∃ a b : Text, line.trim = a ++ '.' :: b ∧ '.' ∉ a ∧ isLabel a.trim = true
        ∧ label = a.trim ∧ text = b.trim := by
  constructor
  · intro h
    rw [numbered?] at h
    cases hcut : line.trim.cut? '.' with
    | none => simp [hcut] at h
    | some p =>
        obtain ⟨a, b⟩ := p
        obtain ⟨hline, ha⟩ := Text.cut?_eq_some_iff.mp hcut
        by_cases hlabel : isLabel a.trim = true
        · simp only [hcut, hlabel, if_true, Option.some.injEq, Prod.mk.injEq] at h
          exact ⟨a, b, hline, ha, hlabel, h.1.symm, h.2.symm⟩
        · simp [hcut, hlabel] at h
  · rintro ⟨a, b, hline, ha, hlabel, rfl, rfl⟩
    rw [numbered?, hline, Text.cut?_append_cons ha]
    exact if_pos hlabel

/-- The number of a line is a label. -/
lemma isLabel_of_numbered? (h : numbered? line = some (label, text)) : isLabel label = true := by
  obtain ⟨a, b, -, -, hlabel, rfl, -⟩ := numbered?_eq_some_iff.mp h
  exact hlabel

/-- The text of a numbered line is cut out of the line. -/
lemma mem_of_numbered? (h : numbered? line = some (label, text)) {c : Char}
    (hc : c ∈ label ∨ c ∈ text) : c ∈ line := by
  obtain ⟨a, b, hline, -, -, rfl, rfl⟩ := numbered?_eq_some_iff.mp h
  refine Text.mem_of_mem_trim ?_
  rw [hline]
  rcases hc with hc | hc
  · exact List.mem_append_left _ (Text.mem_of_mem_trim hc)
  · exact List.mem_append_right _ (List.mem_cons_of_mem _ (Text.mem_of_mem_trim hc))

/-- A label, a point and anything else make a numbered line. -/
lemma numbered?_label_append (h : isLabel label = true) (s : Text) :
    numbered? (label ++ '.' :: s) = some (label, s.trim) := by
  have htight : (label ++ ['.']).Tight := by
    have hpoint : Text.Tight ['.'] := by constructor <;> simp <;> decide
    simpa using Text.tight_append_append (m := []) (tight_of_isLabel h) hpoint
      (isLabel_iff.mp h).1 (by simp)
  refine numbered?_eq_some_iff.mpr ⟨label, Text.trimEnd s, ?_, dot_notMem_of_isLabel h, ?_⟩
  · rw [List.append_cons, Text.trim_append_of_tight htight (by simp), List.append_assoc]
    rfl
  · rw [(tight_of_isLabel h).trim_eq, Text.trim_trimEnd]
    exact ⟨h, rfl, rfl⟩

/-- The number of a text stands in the text, however the line goes on after a character that no
label holds. -/
lemma numbered?_eq_none_of_append {v rest : Text} {x : Char} (hv : v.Tight)
    (hline : (v ++ ' ' :: x :: rest).Tight) (hx : x.isAlphanum = false) (hdot : x ≠ '.')
    (hblank : Text.isBlank x = false) (h : numbered? v = none) :
    numbered? (v ++ ' ' :: x :: rest) = none := by
  rw [Option.eq_none_iff_forall_ne_some]
  rintro ⟨label, text⟩ hsome
  obtain ⟨a, b, hab, ha, hlabel, -, -⟩ := numbered?_eq_some_iff.mp hsome
  rw [hline.trim_eq] at hab
  by_cases hmem : '.' ∈ v
  · -- the first point of the line is that of `v`
    obtain ⟨a', b', rfl, ha'⟩ := List.eq_append_cons_of_mem hmem
    have hcut : Text.cut? '.' (a' ++ '.' :: (b' ++ ' ' :: x :: rest)) = some (a, b) := by
      rw [Text.cut?_eq_some_iff]
      exact ⟨by simpa using hab, ha⟩
    rw [Text.cut?_append_cons ha', Option.some.injEq, Prod.mk.injEq] at hcut
    have := numbered?_eq_some_iff.mpr ⟨a', b', hv.trim_eq, ha', hcut.1 ▸ hlabel, rfl, rfl⟩
    rw [h] at this
    exact absurd this (by simp)
  · -- it comes after `x`, which the label would hold
    have hxa : x ∈ a := by
      rw [show v ++ ' ' :: x :: rest = (v ++ [' ', x]) ++ rest by simp,
        List.append_eq_append_iff] at hab
      rcases hab with ⟨more, rfl, -⟩ | ⟨more, hmore, hdots⟩
      · simp
      · cases more with
        | nil =>
            rw [List.append_nil] at hmore
            simp [← hmore]
        | cons y more =>
            obtain rfl : '.' = y := (List.cons.inj hdots).1
            have hpoint : '.' ∈ v ++ [' ', x] := by simp [hmore]
            exact absurd hpoint (by simp [hmem, hdot.symm])
    have hx' := (isLabel_iff.mp hlabel).2 x (Text.mem_trim_of_not_blank hxa hblank)
    rw [hx] at hx'
    exact absurd hx' (by simp)

end Grading
