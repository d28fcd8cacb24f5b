/-
The two ways to expand a value.

* `Expander.Preserves`, `Expander.KeepsFree`: the forms of a value keep to the characters that the
  value keeps to, in particular to none that separates;
* `Expander.BareList`: a list without parentheses;
* `Expander.otherForm?_eq_some_iff`: which values have another form, and which;
* `Expander.preserves_asWritten`, `Expander.preserves_withParentheses`: both keep to the characters
  of the value, parentheses aside;
* `Expander.Faithful`: what a key needs of an expander to be unrolled line by line, which both have.
-/
import Grading.Key.Expander
import Grading.Proofs.Text.Trim

namespace Grading

namespace Expander

variable {value s f : Text} {P : Char → Prop}

/-- The forms of a value keep to the characters that the value keeps to. -/
def Preserves (P : Char → Prop) (expand : Expander) : Prop :=
  ∀ value : Text, (∀ c ∈ value, P c) → ∀ form ∈ expand value, ∀ c ∈ form, P c

/-- The forms of a value hold no separator if the value holds none. -/
abbrev KeepsFree (expand : Expander) : Prop :=
  expand.Preserves fun c => c ≠ '&' ∧ c ≠ ';' ∧ c ≠ '|'

lemma preserves_asWritten (P : Char → Prop) : asWritten.Preserves P := by
  intro value hvalue form hform
  rwa [List.mem_singleton.mp hform]

/-! ### Lists and parentheses -/

/-- A list without parentheses. -/
structure BareList (s : Text) : Prop where
  comma : ',' ∈ s
  bare : ∀ c ∈ s, isParenthesis c = false

lemma BareList.ne_nil (h : BareList s) : s ≠ [] := List.ne_nil_of_mem h.comma

lemma tight_parenthesized (s : Text) : Text.Tight ('(' :: s ++ [')']) :=
  Text.tight_append_append (a := ['(']) (b := [')']) (by constructor <;> simp <;> decide)
    (by constructor <;> simp <;> decide) (by simp) (by simp)

lemma inner?_eq_some_iff : inner? value = some s ↔ value = '(' :: s ++ [')'] := by
  constructor
  · intro h
    unfold inner? at h
    split at h
    · rw [← List.isSuffixOf?_eq_some_iff_append_eq.mp h]
      rfl
    · simp at h
  · rintro rfl
    rw [List.cons_append, inner?, List.isSuffixOf?_eq_some_iff_append_eq]

lemma inner?_eq_none (h : ∀ c ∈ value, isParenthesis c = false) : inner? value = none := by
  rw [Option.eq_none_iff_forall_ne_some]
  intro s hs
  have := h '(' (by rw [inner?_eq_some_iff.mp hs]; simp)
  exact absurd this (by decide)

/-- A list without parentheses also stands with them. -/
lemma BareList.otherForm? (h : BareList s) : otherForm? s = some ('(' :: s ++ [')']) := by
  have hany : s.any isParenthesis = false := List.any_eq_false.mpr (by simpa using h.bare)
  have hcomma : s.contains ',' = true := by simpa using h.comma
  rw [Expander.otherForm?, if_pos hcomma, inner?_eq_none h.bare]
  simp [hany]

/-- A list in parentheses also stands without them, trimmed. -/
lemma BareList.otherForm?_parenthesized (h : BareList s) :
    Expander.otherForm? ('(' :: s ++ [')']) = some s.trim := by
  have hany : s.any isParenthesis = false := List.any_eq_false.mpr (by simpa using h.bare)
  have hcomma : ('(' :: s ++ [')']).contains ',' = true := by simp [h.comma]
  rw [Expander.otherForm?, if_pos hcomma, inner?_eq_some_iff.mpr rfl]
  simp [hany]

lemma BareList.trim (h : BareList s) : BareList s.trim where
  comma := Text.mem_trim_of_not_blank h.comma (by decide)
  bare := fun c hc => h.bare c (Text.mem_of_mem_trim hc)

/-- Only lists have another form: one without parentheses has the form with them, and one in a
single pair of parentheses the form without. -/
lemma otherForm?_eq_some_iff :
    otherForm? value = some f ↔
      (BareList value ∧ f = '(' :: value ++ [')'])
        ∨ ∃ s, BareList s ∧ value = '(' :: s ++ [')'] ∧ f = s.trim := by
  constructor
  · intro h
    rw [otherForm?] at h
    split at h
    case isFalse => exact absurd h (by simp)
    case isTrue hcomma =>
      have hcomma : ',' ∈ value := by simpa using hcomma
      cases hin : inner? value with
      | none =>
          rw [hin] at h
          by_cases hany : value.any isParenthesis = true
          · simp [hany] at h
          · rw [if_neg hany, Option.some.injEq] at h
            exact Or.inl ⟨⟨hcomma, by simpa using hany⟩, h.symm⟩
      | some s =>
          have hval := inner?_eq_some_iff.mp hin
          simp only [hin] at h
          by_cases hany : s.any isParenthesis = true
          · simp [hany] at h
          · rw [if_neg hany, Option.some.injEq] at h
            have hmem : ',' ∈ s := by simpa [hval] using hcomma
            exact Or.inr ⟨s, ⟨hmem, by simpa using hany⟩, hval, h.symm⟩
  · rintro (⟨h, rfl⟩ | ⟨s, h, rfl, rfl⟩)
    · exact h.otherForm?
    · exact h.otherForm?_parenthesized

/-- With the other form of a list, no characters but parentheses come in. -/
lemma preserves_withParentheses (hopen : P '(') (hclose : P ')') :
    withParentheses.Preserves P := by
  intro value hvalue form hform
  rcases List.mem_cons.mp hform with rfl | hform
  · exact hvalue
  · rcases otherForm?_eq_some_iff.mp (Option.mem_toList.mp hform) with
      ⟨-, rfl⟩ | ⟨s, -, rfl, rfl⟩
    · intro c hc
      simp only [List.cons_append, List.mem_cons, List.mem_append, List.not_mem_nil,
        or_false] at hc
      rcases hc with rfl | hc | rfl
      · exact hopen
      · exact hvalue c hc
      · exact hclose
    · exact fun c hc => hvalue c (by simp [Text.mem_of_mem_trim hc])

lemma keepsFree_asWritten : asWritten.KeepsFree := preserves_asWritten _

lemma keepsFree_withParentheses : withParentheses.KeepsFree :=
  preserves_withParentheses (by decide) (by decide)

/-! ### What unrolling needs -/

/-- A value is one of its own forms, and no form brings in what separates alternatives or lines. -/
structure Faithful (expand : Expander) : Prop where
  self : ∀ value, value ∈ expand value
  keepsFree : expand.KeepsFree
  no_feed : expand.Preserves (· ≠ '\n')

lemma faithful_asWritten : asWritten.Faithful :=
  ⟨fun _ => List.mem_singleton_self _, keepsFree_asWritten, preserves_asWritten _⟩

lemma faithful_withParentheses : withParentheses.Faithful :=
  ⟨fun _ => List.mem_cons_self, keepsFree_withParentheses,
    preserves_withParentheses (by decide) (by decide)⟩

lemma faithful_of_mem {expand : Expander} (h : expand ∈ [asWritten, withParentheses]) :
    expand.Faithful := by
  simp only [List.mem_cons, List.not_mem_nil, or_false] at h
  rcases h with rfl | rfl
  · exact faithful_asWritten
  · exact faithful_withParentheses

end Expander

end Grading
