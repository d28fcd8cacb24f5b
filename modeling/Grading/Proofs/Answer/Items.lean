/-
Lists compared in any order, by their items and how often each of them comes.

* `listItems_normalize`: the items that are compared are those of the answer as it was given, each
  in lower case and without its blanks;
* `Alternative.accepts_anyOrder_iff`: a list matches an alternative exactly if the value of that has
  the same items in some order;
* `mark_of_perm_items`: lists of the same items earn the same.
-/
import Grading.Proofs.Answer.Priority
import Grading.Proofs.Answer.Solution
import Grading.Proofs.Text.Sigma

namespace Grading

open Text (squeeze)

variable {rules : Rules} {a : Alternative} {raw s : Text}

/-! ### Lists are no numbers and no fractions -/

lemma readNumber?_eq_none_of_comma (h : ',' ∈ s) : readNumber? s = none := by
  rw [Option.eq_none_iff_forall_ne_some]
  exact fun x hx => notMem_of_readNumber? hx (by decide) (by decide) h

lemma fault_eq_none_of_comma (h : ',' ∈ (normalize rules s).text) :
    (normalize rules s).fault = none :=
  fault_eq_none (fractionParts?_eq_none_of_mem h (by decide) (by decide) (by decide))

/-- A list is not what a fraction is converted to. -/
lemma text_normalize_of_comma (h : ',' ∈ (normalize rules s).text) :
    (normalize rules s).text = foldCase rules s := by
  rcases text_convertFraction rules (foldCase rules s) with htext | ⟨x, htext⟩
  · exact htext
  · rw [normalize, htext] at h
    exact absurd (isNumberChar_of_mem_twoPlaces h) (by decide)

/-! ### Items -/

lemma squeeze_foldCase (rules : Rules) (s : Text) :
    squeeze (foldCase rules s) = squeeze s.lower := by
  rw [foldCase]
  split
  · exact Text.squeeze_lower_trim s
  · rw [Text.squeeze_squeeze, Text.squeeze_lower_trim]

/-- The items of a list in normal form are those of the list, each in lower case and without its
blanks, be it that spacing counts or not. -/
lemma listItems_normalize (h : ',' ∈ (normalize rules s).text) :
    listItems (normalize rules s).text = (s.pieces ',').map fun item => squeeze item.lower := by
  have hblank : Text.isBlank ',' = false := by decide
  calc listItems (normalize rules s).text
      = (squeeze (foldCase rules s)).pieces ',' := by rw [text_normalize_of_comma h, listItems]
    _ = (squeeze s.lower).pieces ',' := by rw [squeeze_foldCase]
    _ = (s.lower.pieces ',').map squeeze := Text.pieces_squeeze hblank _
    _ = ((s.pieces ',').map Text.lower).map squeeze := by rw [Text.pieces_comma_lower]
    _ = (s.pieces ',').map fun item => squeeze item.lower := List.map_map

/-- Where order does not matter and items have to be the same, a list matches an alternative exactly
if the value of that has the same items in some order. -/
lemma Alternative.accepts_anyOrder_iff (horder : rules.listOrderMatters = false)
    (hexact : rules.listMatch = .exact) (hcomma : ',' ∈ (normalize rules raw).text) :
    a.accepts rules raw = true
      ↔ (listItems (normalize rules raw).text).Perm (listItems (normalize rules a.value).text) := by
  have hcontains : (normalize rules raw).text.contains ',' = true := by simpa using hcomma
  rw [accepts, isSome_match?_iff, readNumber?_eq_none_of_comma hcomma, Rules.matchLists, horder,
    hexact, hcontains, Bool.not_false, Bool.true_and, Bool.true_and, listsMatch_exact_iff]
  constructor
  · rintro (⟨_, _, -, hnumber, -⟩ | ⟨-, heq | hperm⟩)
    · cases hnumber
    · rw [heq]
    · exact hperm
  · exact fun hperm => Or.inr ⟨Or.inr rfl, Or.inr hperm⟩

/-- **Lists in any order**: where order does not matter and items have to be the same, answers whose
normal forms are lists of the same items earn the same, up to the answer that is shown. An
alternative alone accepts such an answer exactly if its normal form has the same items, each as
often. The items are those of the answer as it was given, in lower case and without blanks. -/
theorem mark_of_perm_items (rules : Rules) (horder : rules.listOrderMatters = false)
    (hexact : rules.listMatch = .exact) :
    (∀ s t, ',' ∈ (normalize rules s).text → ',' ∈ (normalize rules t).text →
        (listItems (normalize rules s).text).Perm (listItems (normalize rules t).text) →
        ∀ p : Problem, p.mark rules t = { p.mark rules s with answer := (normalize rules t).text })
      ∧ ∀ s, ',' ∈ (normalize rules s).text →
        (∀ (p : Problem) (a : Alternative), (p.only a).Accepts rules s
            ↔ (listItems (normalize rules s).text : Multiset Text)
              = listItems (normalize rules a.value).text)
          ∧ listItems (normalize rules s).text
            = (s.pieces ',').map fun item => squeeze item.lower := by
  refine ⟨fun s t hs ht hperm p => ?_, fun s hs => ⟨fun p a => ?_, listItems_normalize hs⟩⟩
  · refine Problem.mark_eq_of_accepts ?_ (fun a => ?_) p
    · rw [fault_eq_none_of_comma hs, fault_eq_none_of_comma ht]
    · rw [Bool.eq_iff_iff, Alternative.accepts_anyOrder_iff horder hexact ht,
        Alternative.accepts_anyOrder_iff horder hexact hs]
      exact ⟨hperm.trans, hperm.symm.trans⟩
  · rw [Problem.accepts_only_iff, Alternative.accepts_anyOrder_iff horder hexact hs,
      Multiset.coe_eq_coe]

/-- A list that holds a fraction, where spacing counts and order does not, after an alternative that
is a fraction by zero. -/
theorem mark_of_perm_items_spaced :
    let rules : Rules := { preserveSpacing := true, listOrderMatters := false }
    let colours : Alternative := .ofTags "Red , 4/5, Blue".toList [.ratio 0.5]
    let p : Problem := ⟨"1".toList, [.ofTags "5/0".toList [], colours]⟩
    let s := "4/5 ,Blue, red".toList
    let t := "blue,RED,4/5".toList
    ',' ∈ (normalize rules s).text ∧ ',' ∈ (normalize rules t).text
      ∧ (listItems (normalize rules s).text).Perm (listItems (normalize rules t).text)
      ∧ p.mark rules t = { p.mark rules s with answer := (normalize rules t).text }
      ∧ (p.only colours).Accepts rules s := by
  intro rules colours p s t
  have hs : ',' ∈ (normalize rules s).text := by decide +kernel
  have ht : ',' ∈ (normalize rules t).text := by decide +kernel
  have hperm : (listItems (normalize rules s).text).Perm (listItems (normalize rules t).text) := by
    decide +kernel
  obtain ⟨hmark, halone⟩ := mark_of_perm_items rules rfl rfl
  refine ⟨hs, ht, hperm, hmark s t hs ht hperm p, ?_⟩
  rw [(halone s hs).1]
  decide +kernel

end Grading
