/-
The order of texts, and sorting by it.

* `le_total`, `le_trans`, `le_antisymm`: the order is linear;
* `pairwise_mergeSort_le`: sorting by a text puts the elements in order;
* `mergeSort_eq_of_perm`: if different elements have different texts, then the order in which they
  came is forgotten;
* `mergeSort_le_eq_iff_perm`: sorted texts are the same exactly if the texts are, up to their order.
-/
import Grading.Text.Basic
import Mathlib.Tactic

namespace Grading

namespace Text

variable {a b : Char} {s t u : Text}

/-! ### A linear order -/

@[simp] lemma nil_le (s : Text) : le [] s = true := by
  cases s <;> rfl

@[simp] lemma not_cons_le_nil (a : Char) (s : Text) : le (a :: s) [] = false := rfl

lemma cons_le_cons_iff :
    le (a :: s) (b :: t) = true ↔ a.toNat < b.toNat ∨ a = b ∧ le s t = true := by
  simp [le]

lemma le_total (s t : Text) : le s t = true ∨ le t s = true := by
  induction s generalizing t with
  | nil => exact Or.inl (nil_le t)
  | cons a s ih =>
      cases t with
      | nil => exact Or.inr (nil_le _)
      | cons b t =>
          rw [cons_le_cons_iff, cons_le_cons_iff]
          rcases Nat.lt_trichotomy a.toNat b.toNat with hab | hab | hab
          · exact Or.inl (Or.inl hab)
          · obtain rfl : a = b := Char.toNat_inj.mp hab
            exact (ih t).imp (fun h => Or.inr ⟨rfl, h⟩) fun h => Or.inr ⟨rfl, h⟩
          · exact Or.inr (Or.inl hab)

lemma le_trans (hst : le s t = true) (htu : le t u = true) : le s u = true := by
  induction s generalizing t u with
  | nil => exact nil_le u
  | cons a s ih =>
      cases t with
      | nil => simp at hst
      | cons b t =>
          cases u with
          | nil => simp at htu
          | cons c u =>
              rw [cons_le_cons_iff] at hst htu ⊢
              rcases hst with hab | ⟨rfl, hst⟩
              · rcases htu with hbc | ⟨rfl, -⟩
                · exact Or.inl (hab.trans hbc)
                · exact Or.inl hab
              · exact htu.imp_right fun ⟨hac, htu⟩ => ⟨hac, ih hst htu⟩

lemma le_antisymm (hst : le s t = true) (hts : le t s = true) : s = t := by
  induction s generalizing t with
  | nil =>
      cases t with
      | nil => rfl
      | cons b t => simp at hts
  | cons a s ih =>
      cases t with
      | nil => simp at hst
      | cons b t =>
          rw [cons_le_cons_iff] at hst hts
          rcases hst with hab | ⟨rfl, hst⟩
          · rcases hts with hba | ⟨rfl, -⟩ <;> omega
          · rcases hts with haa | ⟨-, hts⟩
            · omega
            · rw [ih hst hts]

/-! ### Sorting -/

section Sorting

variable {α : Type} {l l' : List α}

/-- Elements sorted by a text are in order. -/
lemma pairwise_mergeSort_le (name : α → Text) (l : List α) :
    (l.mergeSort fun a b => le (name a) (name b)).Pairwise
      fun a b => le (name a) (name b) = true := by
  have htrans : ∀ a b c, le (name a) (name b) = true → le (name b) (name c) = true →
      le (name a) (name c) = true := fun _ _ _ => le_trans
  have htotal : ∀ a b, (le (name a) (name b) || le (name b) (name a)) = true := by
    intro a b
    rw [Bool.or_eq_true]
    exact le_total (name a) (name b)
  exact List.pairwise_mergeSort htrans htotal l

/-- If different elements have different texts, then sorting by these forgets the order in which
the elements came. -/
lemma mergeSort_eq_of_perm (name : α → Text) (h : l.Perm l')
    (hname : ∀ a ∈ l, ∀ b ∈ l, name a = name b → a = b) :
    (l.mergeSort fun a b => le (name a) (name b))
      = l'.mergeSort fun a b => le (name a) (name b) := by
  have hl := List.mergeSort_perm l fun a b => le (name a) (name b)
  have hl' := List.mergeSort_perm l' fun a b => le (name a) (name b)
  refine List.Perm.eq_of_pairwise (fun a b ha hb hab hba => ?_) (pairwise_mergeSort_le name l)
    (pairwise_mergeSort_le name l') (hl.trans (h.trans hl'.symm))
  exact hname a (hl.mem_iff.mp ha) b (h.mem_iff.mpr (hl'.mem_iff.mp hb)) (le_antisymm hab hba)

/-- Sorted texts are the same exactly if the texts are, up to their order. -/
lemma mergeSort_le_eq_iff_perm {ss ts : List Text} :
    ss.mergeSort le = ts.mergeSort le ↔ ss.Perm ts := by
  constructor
  · intro h
    exact (List.mergeSort_perm ss le).symm.trans (h ▸ List.mergeSort_perm ts le)
  · exact fun h => mergeSort_eq_of_perm id h fun _ _ _ _ hab => hab

end Sorting

end Text

end Grading
