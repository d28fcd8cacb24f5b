/-
Unrolling with the two forms of lists, and what a second time adds.

* `Entry.other?`, `entries_withParentheses`: the alternatives of a line are those as written, each
  followed by its other form if it has one;
* `LooseListsSettled`: wherever a list with blanks right inside its parentheses is accepted, the
  same list without those blanks comes in time;
* `compileLine_withParentheses_idempotent_iff`: a second time changes nothing exactly of lines whose
  loose lists are settled, because a loose list is the only one whose form without parentheses has
  another form than the list;
* `compileLine_withParentheses_not_idempotent`: a line of one loose list is unrolled further.
-/
import Grading.Proofs.Key.Unrolled

namespace Grading

open Expander (BareList)
open Occurrences (withCompanions StandsBy)

variable {e f : Entry} {es : List Entry}

/-! ### The other form of an alternative -/

/-- The alternative with the other form of its list, if it is one. -/
def Entry.other? (e : Entry) : Option Entry :=
  (Expander.otherForm? e.value).map fun form => ⟨form, e.tags⟩

lemma Entry.other?_of_bareList {s : Text} {tags : List Text} (h : BareList s) :
    Entry.other? ⟨s, tags⟩ = some ⟨'(' :: s ++ [')'], tags⟩ := by
  rw [Entry.other?, h.otherForm?, Option.map_some]

lemma Entry.other?_of_parenthesized {s : Text} {tags : List Text} (h : BareList s) :
    Entry.other? ⟨'(' :: s ++ [')'], tags⟩ = some ⟨s.trim, tags⟩ := by
  rw [Entry.other?, h.otherForm?_parenthesized, Option.map_some]

/-- An alternative has another form if its value is a list without parentheses or in a single pair
of them. -/
lemma Entry.other?_eq_some (h : e.other? = some f) :
    (BareList e.value ∧ f = ⟨'(' :: e.value ++ [')'], e.tags⟩)
      ∨ ∃ s, BareList s ∧ e = ⟨'(' :: s ++ [')'], e.tags⟩ ∧ f = ⟨s.trim, e.tags⟩ := by
  obtain ⟨form, hform, rfl⟩ := Option.map_eq_some_iff.mp h
  rcases Expander.otherForm?_eq_some_iff.mp hform with ⟨hbare, rfl⟩ | ⟨s, hbare, hvalue, rfl⟩
  · exact Or.inl ⟨hbare, rfl⟩
  · exact Or.inr ⟨s, hbare, by rw [← hvalue], rfl⟩

/-- The forms of an alternative are itself and its other form. -/
lemma Entry.Canonical.forms_withParentheses (h : e.Canonical) :
    e.forms .withParentheses = e :: e.other?.toList := by
  have hparts : trimmedParts (Expander.withParentheses e.value)
      = e.value :: (Expander.otherForm? e.value).toList := by
    refine trimmedParts_eq_self fun t ht => ?_
    rcases List.mem_cons.mp ht with rfl | ht
    · exact ⟨h.value_ne, h.value_tight⟩
    · rcases Expander.otherForm?_eq_some_iff.mp (Option.mem_toList.mp ht) with
        ⟨-, rfl⟩ | ⟨s, hbare, -, rfl⟩
      · exact ⟨by simp, Expander.tight_parenthesized _⟩
      · exact ⟨hbare.trim.ne_nil, Text.tight_trim s⟩
  rw [Entry.forms, hparts, Entry.other?]
  cases Expander.otherForm? e.value <;> rfl

/-- The alternatives of a line are those as written, each with its other form. -/
lemma entries_withParentheses (line : Text) :
    entries .withParentheses line = withCompanions Entry.other? (entries .asWritten line) := by
  rw [entries_eq_forms, withCompanions]
  refine congrArg List.eraseDups (List.flatMap_congr fun e he => ?_)
  exact (canonical_of_mem_entries_asWritten he).forms_withParentheses

/-! ### A second time -/

/-- Wherever the alternatives hold a list with blanks right inside its parentheses, the same list
without those blanks, in parentheses and with the same tags, stands before the list without
parentheses or right after it. -/
def LooseListsSettled (es : List Entry) : Prop :=
  ∀ (s : Text) (tags : List Text), BareList s → s.trim ≠ s → ⟨'(' :: s ++ [')'], tags⟩ ∈ es →
    StandsBy es ⟨s.trim, tags⟩ ⟨'(' :: s.trim ++ [')'], tags⟩

/-- Other forms of other forms stand where they should exactly if loose lists are settled: the
other form of any other list leads back to the list. -/
lemma other_other_standsBy_iff (hes : ∀ e ∈ es, e.Canonical) :
    (∀ y ∈ es, ∀ x, y.other? = some x → ∀ b, x.other? = some b → b ≠ y → StandsBy es x b)
      ↔ LooseListsSettled es := by
  constructor
  · intro h s tags hbare hloose hmem
    refine h _ hmem _ (Entry.other?_of_parenthesized hbare) _
      (Entry.other?_of_bareList hbare.trim) fun heq => hloose ?_
    simpa using heq
  · intro h y hy x hyx b hxb hne
    rcases Entry.other?_eq_some hyx with ⟨hbare, rfl⟩ | ⟨s, hbare, hy', rfl⟩
    · -- back to the list, which has no blanks at its ends
      rw [Entry.other?_of_parenthesized hbare, (hes y hy).value_tight.trim_eq] at hxb
      exact absurd (Option.some.inj hxb).symm hne
    · rw [Entry.other?_of_bareList hbare.trim] at hxb
      obtain rfl := Option.some.inj hxb
      refine h s y.tags hbare (fun htight => hne ?_) (hy' ▸ hy)
      rw [htight, ← hy']

/-- **Unrolling with both forms of lists, a second time**, changes nothing exactly of a line whose
loose lists are settled. -/
theorem compileLine_withParentheses_idempotent_iff (line : Text) :
    compileLine .withParentheses (compileLine .withParentheses line)
        = compileLine .withParentheses line
      ↔ LooseListsSettled (entries .withParentheses line) := by
  have hcanonical : ∀ (l : Text), ∀ e ∈ entries .withParentheses l, e.Canonical :=
    fun _ _ he => canonical_of_mem_entries Expander.keepsFree_withParentheses he
  have hagain : entries .withParentheses (compileLine .withParentheses line)
      = withCompanions Entry.other? (entries .withParentheses line) := by
    rw [entries_withParentheses, entries_compileLine Expander.keepsFree_withParentheses]
  have hentries : compileLine .withParentheses (compileLine .withParentheses line)
        = compileLine .withParentheses line
      ↔ withCompanions Entry.other? (entries .withParentheses line)
        = entries .withParentheses line := by
    rw [← hagain]
    refine ⟨fun h => ?_, fun h => by rw [compileLine, h, ← compileLine]⟩
    exact renderEntries_injective (hcanonical _) (hcanonical _) h
  have hsettled := other_other_standsBy_iff (hcanonical line)
  rw [hentries, ← hsettled, entries_withParentheses]
  exact Occurrences.withCompanions_idempotent_iff Entry.other? (entries .asWritten line)

/-- A list with blanks right inside its parentheses gets a third form the second time. -/
theorem compileLine_withParentheses_not_idempotent :
    let once := compileLine .withParentheses "( 5,4 )".toList
    once = "( 5,4 ) & 5,4".toList
      ∧ compileLine .withParentheses once = "( 5,4 ) & 5,4 & (5,4)".toList := by
  decide

end Grading
