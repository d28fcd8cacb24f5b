/-
The ways to compare lists, from strict to loose.

* `listsMatch_exact_iff`, `listsMatch_contains_iff`: what each way asks of the items of two lists;
* `ItemsStand`, `forall_exact_contains_iff`: an accepted text whose items stand in it as they are
  compared, so without their blanks, is the kind of text for which the loose way is looser;
* `squeeze_normalize`: a normal form has no blanks unless spacing counts;
* `accepts_inOrder_exact_contains`: what is accepted in order is accepted in any order; what is
  accepted in any order with the same items is accepted with items that occur in the accepted text
  as long as the items stand there, and for all problems exactly if spacing does not count;
* `exact_accepts_contains_rejects`: with spacing, a list with blanks in its items is accepted in the
  strict way only.
-/
import Grading.Proofs.Answer.Acceptance
import Grading.Proofs.Decimal.Written
import Grading.Proofs.Text.Order
import Grading.Proofs.Text.Pieces

namespace Grading

open Text (squeeze squeeze_eq_self squeeze_squeeze)

variable {rules : Rules} {p : Problem} {s answer accepted raw : Text}

/-! ### The items of two lists -/

/-- In the strict way the items are the same, up to their order. -/
lemma listsMatch_exact_iff :
    listsMatch .exact answer accepted = true
      ↔ (listItems answer).Perm (listItems accepted) := by
  rw [listsMatch, Bool.and_eq_true, beq_iff_eq, beq_iff_eq, Text.mergeSort_le_eq_iff_perm]
  exact and_iff_right_of_imp List.Perm.length_eq

/-- In the loose way there are as many items, and those of the answer stand in the accepted text. -/
lemma listsMatch_contains_iff :
    listsMatch .contains answer accepted = true
      ↔ (listItems answer).length = (listItems accepted).length
        ∧ ∀ item ∈ listItems answer, item <:+: accepted := by
  simp only [listsMatch, Bool.and_eq_true, beq_iff_eq, List.all_eq_true, Text.holds_iff]

/-- The items of a text stand in it as they are compared, without their blanks. -/
def ItemsStand (s : Text) : Prop := ∀ item ∈ listItems s, item <:+: s

/-- The loose way accepts whatever the strict way does exactly for a text in which its own items
stand. -/
lemma forall_exact_contains_iff :
    (∀ answer, listsMatch .exact answer accepted = true →
        listsMatch .contains answer accepted = true)
      ↔ ItemsStand accepted := by
  constructor
  · intro h
    have hself := h accepted (listsMatch_exact_iff.mpr (List.Perm.refl _))
    exact (listsMatch_contains_iff.mp hself).2
  · intro h answer hexact
    have hperm := listsMatch_exact_iff.mp hexact
    refine listsMatch_contains_iff.mpr ⟨hperm.length_eq, fun item hitem => ?_⟩
    exact h item (hperm.mem_iff.mp hitem)

/-! ### Blanks -/

/-- The items of a text without blanks stand in it. -/
lemma itemsStand_of_squeeze (h : squeeze s = s) : ItemsStand s := by
  intro item hitem
  rw [listItems, h] at hitem
  exact Text.infix_of_mem_pieces hitem

/-- Converting a fraction leaves the text as it is or writes a number. -/
lemma text_convertFraction (rules : Rules) (s : Text) :
    (convertFraction rules s).text = s ∨ ∃ x, (convertFraction rules s).text = twoPlaces x := by
  rw [convertFraction]
  split
  case isFalse => exact Or.inl rfl
  case isTrue =>
    rw [quotient?]
    cases fractionParts? s with
    | none => exact Or.inl rfl
    | some parts =>
        cases hzero : parts.2 == 0 with
        | true => exact Or.inl (by simp [hzero])
        | false => exact Or.inr ⟨parts.1 / parts.2, by simp [hzero]⟩

lemma isNumberChar_of_mem_twoPlaces {x : Float} {c : Char} (h : c ∈ twoPlaces x) :
    Decimal.isNumberChar c = true :=
  List.all_eq_true.mp (Decimal.all_isNumberChar_render _ _) c h

/-- A normal form has no blanks unless spacing counts. -/
lemma squeeze_normalize (h : rules.preserveSpacing = false) (s : Text) :
    squeeze (normalize rules s).text = (normalize rules s).text := by
  rw [normalize]
  rcases text_convertFraction rules (foldCase rules s) with htext | ⟨x, htext⟩
  · rw [htext, foldCase, h]
    exact squeeze_squeeze _
  · rw [htext]
    exact squeeze_eq_self fun c hc =>
      Decimal.isBlank_eq_false_of_isNumberChar (isNumberChar_of_mem_twoPlaces hc)

/-! ### The three ways -/

/-- The rules with lists compared item by item, in order. -/
def Rules.inOrder (rules : Rules) : Rules := { rules with listOrderMatters := true }

/-- The rules with lists compared in any order, in the given way. -/
def Rules.anyOrder (mode : ListMatch) (rules : Rules) : Rules :=
  { rules with listOrderMatters := false, listMatch := mode }

lemma matchLists_inOrder (rules : Rules) (answer accepted : Text) :
    rules.inOrder.matchLists answer accepted = false := rfl

lemma matchLists_anyOrder (mode : ListMatch) (rules : Rules) (answer accepted : Text) :
    (rules.anyOrder mode).matchLists answer accepted
      = (answer.contains ',' && listsMatch mode answer accepted) := rfl

/-- What is accepted in order is accepted in any order. -/
lemma Problem.Accepts.anyOrder_of_inOrder (h : p.Accepts rules.inOrder raw) (mode : ListMatch) :
    p.Accepts (rules.anyOrder mode) raw := by
  refine h.mono rfl fun a _ hlists => ?_
  rw [matchLists_inOrder] at hlists
  exact absurd hlists (by simp)

/-- What is accepted in the strict way is accepted in the loose way, if the items of the accepted
texts stand in them. -/
lemma Problem.Accepts.contains_of_exact
    (hitems : ∀ a ∈ p.alternatives, ItemsStand (normalize rules a.value).text)
    (h : p.Accepts (rules.anyOrder .exact) raw) : p.Accepts (rules.anyOrder .contains) raw := by
  refine h.mono rfl fun a ha hlists => ?_
  rw [matchLists_anyOrder, Bool.and_eq_true] at hlists ⊢
  exact ⟨hlists.1, forall_exact_contains_iff.mpr (hitems a ha) _ hlists.2⟩

/-- A problem with one accepted text, which is no number, accepts a different list exactly if the
two match as lists. -/
lemma accepts_anyOrder_iff {number value : Text} {tags : List Tag} (mode : ListMatch)
    (haccepted : (normalize rules value).text = accepted)
    (hanswer : (normalize rules raw).text = answer) (hnumber : readNumber? accepted = none)
    (hne : answer ≠ accepted) (hcomma : answer.contains ',' = true) :
    Problem.Accepts (rules.anyOrder mode) ⟨number, [Alternative.ofTags value tags]⟩ raw
      ↔ listsMatch mode answer accepted = true := by
  have hvalue : (normalize (rules.anyOrder mode) (Alternative.ofTags value tags).value).text
      = accepted := haccepted
  have hraw : (normalize (rules.anyOrder mode) raw).text = answer := hanswer
  rw [Problem.accepts_iff, List.exists_mem_cons_iff, hvalue, hraw,
    Alternative.isSome_match?_iff, matchLists_anyOrder, hcomma]
  simp [hnumber, hne]

/-! ### Spacing that counts -/

/-- A list with blanks in its items. -/
def spacedList : Text := "x = 4, y = 5".toList

/-- The same list with its items in the other order. -/
def spacedListTurned : Text := "y = 5, x = 4".toList

/-- The problem with that list as its only answer. -/
def spacedListProblem : Problem := ⟨"1".toList, [Alternative.ofTags spacedList []]⟩

/-- Where spacing counts, the list is accepted in the other order in the strict way, but not in the
loose one. -/
lemma accepts_spacedList (h : rules.preserveSpacing = true) :
    spacedListProblem.Accepts (rules.anyOrder .exact) spacedListTurned
      ∧ ¬ spacedListProblem.Accepts (rules.anyOrder .contains) spacedListTurned := by
  have hnormal : ∀ s, s.trim.lower = s → fractionParts? s = none →
      (normalize rules s).text = s := by
    intro s hlower hparts
    rw [normalize, foldCase, if_pos h, hlower, convertFraction]
    split
    · rw [quotient?, hparts]
    · rfl
  have hlists : ∀ mode, spacedListProblem.Accepts (rules.anyOrder mode) spacedListTurned
      ↔ listsMatch mode spacedListTurned spacedList = true := fun mode =>
    accepts_anyOrder_iff mode (hnormal spacedList (by decide) rfl)
      (hnormal spacedListTurned (by decide) rfl) rfl (by decide) (by decide)
  rw [hlists, hlists, listsMatch_exact_iff, listsMatch_contains_iff]
  exact ⟨by decide, by decide⟩

/-- **Lists from strict to loose**: what is accepted in order is accepted in any order. What is
accepted in any order with the same items is accepted with items that occur in the accepted text,
for a problem whose accepted texts have their items stand in them, and so for all problems exactly
if spacing does not count. -/
theorem accepts_inOrder_exact_contains (rules : Rules) :
    (∀ p raw, Problem.Accepts rules.inOrder p raw → Problem.Accepts (rules.anyOrder .exact) p raw)
      ∧ (∀ p : Problem, (∀ a ∈ p.alternatives, ItemsStand (normalize rules a.value).text) →
          ∀ raw, p.Accepts (rules.anyOrder .exact) raw → p.Accepts (rules.anyOrder .contains) raw)
      ∧ ((∀ p raw, Problem.Accepts (rules.anyOrder .exact) p raw →
            Problem.Accepts (rules.anyOrder .contains) p raw)
          ↔ rules.preserveSpacing = false) := by
  refine ⟨fun p raw h => h.anyOrder_of_inOrder .exact,
    fun p hitems raw h => h.contains_of_exact hitems, fun h => ?_,
    fun h p raw haccepts => haccepts.contains_of_exact fun a _ => ?_⟩
  · rw [← Bool.not_eq_true]
    intro hspacing
    obtain ⟨hexact, hcontains⟩ := accepts_spacedList hspacing
    exact hcontains (h _ _ hexact)
  · exact itemsStand_of_squeeze (squeeze_normalize h a.value)

/-- A list of two numbers, with a blank and in the other order. -/
theorem accepts_inOrder_exact_contains_numbers :
    let p : Problem := ⟨"1".toList, [Alternative.ofTags "4,5".toList []]⟩
    let rules : Rules := {}
    (p.Accepts rules.inOrder "4, 5".toList ∧ p.Accepts (rules.anyOrder .exact) "4, 5".toList)
      ∧ p.Accepts (rules.anyOrder .exact) "5,4".toList
      ∧ p.Accepts (rules.anyOrder .contains) "5,4".toList := by
  intro p rules
  have hordered : p.Accepts rules.inOrder "4, 5".toList :=
    Problem.accepts_iff.mpr ⟨_, List.mem_singleton_self _, by rfl⟩
  have hexact : p.Accepts (rules.anyOrder .exact) "5,4".toList := by
    rw [accepts_anyOrder_iff .exact rfl rfl rfl (by decide) (by decide), listsMatch_exact_iff]
    decide
  obtain ⟨hexact_of, -, hcontains_of⟩ := accepts_inOrder_exact_contains rules
  exact ⟨⟨hordered, hexact_of p _ hordered⟩, hexact, hcontains_of.mpr rfl p _ hexact⟩

/-- With spacing, a list in the other order is accepted as having the same items, and rejected as
having items that do not occur in the accepted text. -/
theorem exact_accepts_contains_rejects :
    let rules : Rules := { preserveSpacing := true }
    ∃ p, Problem.ofLine "1".toList "x = 4, y = 5".toList = .ok p
      ∧ p.Accepts (rules.anyOrder .exact) "y = 5, x = 4".toList
      ∧ ¬ p.Accepts (rules.anyOrder .contains) "y = 5, x = 4".toList :=
  ⟨spacedListProblem, rfl, accepts_spacedList rfl⟩

end Grading
