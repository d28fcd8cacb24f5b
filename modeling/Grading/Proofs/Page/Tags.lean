/-
The tags of a page, in the order in which they stand.

* `tagName`, `tagNames`: the name after an angle bracket, and all these names;
* `namesEnd`: whether every name comes to its end within the text, so that what follows it adds
  nothing to a name;
* `tagNames_append`: the tags of such a text come before those of what follows;
* `occurrences_le_count_tagNames`: a tag occurs no more often than its name does.
-/
import Grading.Proofs.Text.Between
import Grading.Text.Blank
import Mathlib.Data.List.TakeWhile

namespace Grading

namespace Page

variable {s t q : Text} {c : Char}

/-- Whether a character ends the name of a tag. -/
def endsName (c : Char) : Bool := c = '/' || c = '>' || Text.isBlank c

/-- The name of the tag whose opening bracket stands right before the text. A closing tag has a
slash in front of its name. -/
def tagName : Text → Text
  | '/' :: s => '/' :: s.takeWhile fun c => !endsName c
  | s => s.takeWhile fun c => !endsName c

/-- The names after the opening brackets, in order. -/
def tagNames : Text → List Text
  | [] => []
  | c :: s => if c = '<' then tagName s :: tagNames s else tagNames s

/-- Whether a bracket or a blank ends the name that the text starts with. -/
def closesName (s : Text) : Bool := s.any fun c => c = '>' || Text.isBlank c

/-- Whether every name in the text comes to its end. -/
def namesEnd : Text → Bool
  | [] => true
  | c :: s => (c != '<' || closesName s) && namesEnd s

/-! ### Texts put together -/

lemma takeWhile_append_of_closesName (h : closesName s = true) (t : Text) :
    (s ++ t).takeWhile (fun c => !endsName c) = s.takeWhile fun c => !endsName c := by
  obtain ⟨c, hc, hcloses⟩ := List.any_eq_true.mp h
  have hends : endsName c = true := by
    rw [endsName, Bool.or_assoc, hcloses, Bool.or_true]
  rw [List.takeWhile_append, if_neg]
  intro hlength
  have hwhole : s.takeWhile (fun c => !endsName c) = s :=
    (List.takeWhile_prefix fun c => !endsName c).eq_of_length hlength
  rw [← hwhole] at hc
  have hmem := List.mem_takeWhile_imp hc
  rw [hends] at hmem
  cases hmem

lemma tagName_append (h : closesName s = true) (t : Text) : tagName (s ++ t) = tagName s := by
  cases s with
  | nil => cases h
  | cons c s =>
      by_cases hslash : c = '/'
      · subst hslash
        have hs : closesName s = true := by
          rw [closesName, List.any_cons] at h
          exact (Bool.or_eq_true_iff.mp h).resolve_left (by decide)
        exact congrArg ('/' :: ·) (takeWhile_append_of_closesName hs t)
      · have hname : ∀ s, tagName (c :: s) = (c :: s).takeWhile fun c => !endsName c := by
          intro s
          rw [tagName.eq_2]
          exact fun _ heq => hslash (List.cons.inj heq).1
        rw [List.cons_append, hname, hname, ← List.cons_append, takeWhile_append_of_closesName h]

/-- The tags of a text whose names come to their end are not changed by what follows. -/
lemma tagNames_append (h : namesEnd s = true) (t : Text) :
    tagNames (s ++ t) = tagNames s ++ tagNames t := by
  induction s with
  | nil => rfl
  | cons c s ih =>
      rw [namesEnd, Bool.and_eq_true] at h
      rw [List.cons_append, tagNames, tagNames, ih h.2]
      by_cases hc : c = '<'
      · have hcloses : closesName s = true := by simpa [hc] using h.1
        rw [if_pos hc, if_pos hc, tagName_append hcloses, List.cons_append]
      · rw [if_neg hc, if_neg hc]

lemma closesName_append (h : closesName s = true) (t : Text) : closesName (s ++ t) = true := by
  rw [closesName, List.any_append, Bool.or_eq_true]
  exact Or.inl h

lemma namesEnd_append (hs : namesEnd s = true) (ht : namesEnd t = true) :
    namesEnd (s ++ t) = true := by
  induction s with
  | nil => exact ht
  | cons c s ih =>
      rw [namesEnd, Bool.and_eq_true, Bool.or_eq_true] at hs
      rw [List.cons_append, namesEnd, Bool.and_eq_true, Bool.or_eq_true]
      exact ⟨hs.1.imp_right fun h => closesName_append h t, ih hs.2⟩

/-- A text without an opening bracket has no tags. -/
lemma tagNames_eq_nil (h : '<' ∉ s) : tagNames s = [] := by
  induction s with
  | nil => rfl
  | cons c s ih =>
      rw [List.mem_cons, not_or] at h
      rw [tagNames, if_neg (Ne.symm h.1), ih h.2]

lemma namesEnd_of_notMem (h : '<' ∉ s) : namesEnd s = true := by
  induction s with
  | nil => rfl
  | cons c s ih =>
      rw [List.mem_cons, not_or] at h
      rw [namesEnd, ih h.2, Bool.and_true, bne_iff_ne.mpr (Ne.symm h.1), Bool.true_or]

/-! ### How often a tag occurs -/

/-- A tag, with whatever follows it, occurs no more often than its name does. -/
lemma occurrences_le_count_tagNames (hq : closesName q = true) (s : Text) :
    Text.occurrences ('<' :: q) s ≤ (tagNames s).count (tagName q) := by
  induction s with
  | nil => simp [Text.occurrences]
  | cons c s ih =>
      rw [Text.occurrences_cons, tagNames]
      by_cases hprefix : List.isPrefixOf ('<' :: q) (c :: s) = true
      · obtain ⟨t, ht⟩ := List.isPrefixOf_iff_prefix.mp hprefix
        obtain ⟨rfl, hs⟩ := List.cons.inj ht
        have hname : tagName s = tagName q :=
          (congrArg tagName hs).symm.trans (tagName_append hq t)
        rw [if_pos hprefix, if_pos rfl, hname, List.count_cons_self]
        omega
      · rw [if_neg hprefix]
        split
        · exact ih.trans (List.count_le_count_cons)
        · exact ih

end Page

end Grading
