/-
The order of problem numbers, and the places of lines that are sorted by them.

* `orderedBefore_trans`, `orderedBefore_total`, `eq_of_orderedBefore`: any two problem numbers are
  in order, and in both orders only if they are the same;
* `StablySorts`, `StablySorts.unique`: positions in the order of the numbers there, and in their own
  order where the numbers are the same; there is no other such order of them;
* `Arranged`: a list with the elements of another, taken from positions in a given order;
* `exists_arranged_mergeSort`, `exists_arranged_sortedLines`: a list that is sorted by problem
  numbers, and the sorted lines of a text, are arranged in the order that sorts the positions.
-/
import Grading.Numbering.Sorted
import Mathlib.Data.List.Nodup
import Mathlib.Data.Option.NAry
import Mathlib.Tactic.Common

namespace Grading

open List (zipIdxLE)
open Text (writtenLines)

/-! ### The order of problem numbers -/

namespace ProblemNumber

variable {c d e : Option Char} {p q r : ProblemNumber}

lemma partLe_trans (h : partLe c d = true) (h' : partLe d e = true) : partLe c e = true := by
  rcases c with _ | c <;> rcases d with _ | d <;> rcases e with _ | e <;>
    simp only [partLe, decide_eq_true_eq, Bool.false_eq_true] at h h' ⊢
  exact Char.le_trans h h'

lemma partLe_total (c d : Option Char) : (partLe c d || partLe d c) = true := by
  rcases c with _ | c <;> rcases d with _ | d <;> simp only [partLe, Bool.or_true, Bool.true_or]
  simpa using Char.le_total c d

lemma eq_of_partLe (h : partLe c d = true) (h' : partLe d c = true) : c = d := by
  rcases c with _ | c <;> rcases d with _ | d <;>
    simp only [partLe, decide_eq_true_eq, Bool.false_eq_true] at h h' ⊢
  exact congrArg some (Char.le_antisymm h h')

lemma le_iff :
    p.le q = true
      ↔ p.number < q.number ∨ p.number = q.number ∧ partLe p.part q.part = true := by
  simp [le]

lemma le_trans (h : p.le q = true) (h' : q.le r = true) : p.le r = true := by
  rw [le_iff] at h h' ⊢
  rcases h with h | ⟨h, hpart⟩
  · omega
  · rcases h' with h' | ⟨h', hpart'⟩
    · omega
    · exact Or.inr ⟨h.trans h', partLe_trans hpart hpart'⟩

lemma le_total (p q : ProblemNumber) : (p.le q || q.le p) = true := by
  rw [Bool.or_eq_true, le_iff, le_iff]
  rcases Nat.lt_trichotomy p.number q.number with h | h | h
  · exact Or.inl (Or.inl h)
  · have hpart := partLe_total p.part q.part
    rw [Bool.or_eq_true] at hpart
    exact hpart.imp (fun hpart => Or.inr ⟨h, hpart⟩) fun hpart => Or.inr ⟨h.symm, hpart⟩
  · exact Or.inr (Or.inl h)

lemma eq_of_le (h : p.le q = true) (h' : q.le p = true) : p = q := by
  obtain ⟨n, c⟩ := p
  obtain ⟨m, d⟩ := q
  rw [le_iff] at h h'
  dsimp only at h h'
  rcases h with h | ⟨rfl, hpart⟩
  · omega
  · rw [eq_of_partLe hpart (h'.resolve_left (Nat.lt_irrefl n)).2]

end ProblemNumber

section OrderedBefore

variable {p q : Option ProblemNumber}

lemma orderedBefore_none (p : Option ProblemNumber) : orderedBefore p none = true := by
  cases p <;> rfl

lemma orderedBefore_trans (p q r : Option ProblemNumber) (h : orderedBefore p q = true)
    (h' : orderedBefore q r = true) : orderedBefore p r = true := by
  cases r with
  | none => exact orderedBefore_none p
  | some r =>
      cases q with
      | none => cases h'
      | some q =>
          cases p with
          | none => cases h
          | some p => exact ProblemNumber.le_trans h h'

lemma orderedBefore_total (p q : Option ProblemNumber) :
    (orderedBefore p q || orderedBefore q p) = true := by
  cases q with
  | none => rw [orderedBefore_none, Bool.true_or]
  | some q =>
      cases p with
      | none => rw [orderedBefore_none, Bool.or_true]
      | some p => exact ProblemNumber.le_total p q

lemma orderedBefore_self (p : Option ProblemNumber) : orderedBefore p p = true := by
  simpa using orderedBefore_total p p

/-- Two problem numbers that come before each other are the same. -/
lemma eq_of_orderedBefore (h : orderedBefore p q = true) (h' : orderedBefore q p = true) :
    p = q := by
  cases p with
  | none =>
      cases q with
      | none => rfl
      | some q => cases h
  | some p =>
      cases q with
      | none => cases h'
      | some q => exact congrArg some (ProblemNumber.eq_of_le h h')

end OrderedBefore

/-! ### Positions in order -/

/-- Whether the positions of numbers stand in the order of the numbers there, and those of the same
number in their own order. -/
structure StablySorts (numbers : List (Option ProblemNumber)) (order : List ℕ) : Prop where
  /-- Each position is there once. -/
  perm : order.Perm (List.range numbers.length)
  /-- Positions that come later have no smaller number, and with the same number they are later. -/
  pairwise : order.Pairwise fun i j => ∀ p ∈ numbers[i]?, ∀ q ∈ numbers[j]?,
    orderedBefore p q = true ∧ (p = q → i < j)

/-- There is only one order of the positions. -/
lemma StablySorts.unique {numbers : List (Option ProblemNumber)} {order order' : List ℕ}
    (h : StablySorts numbers order) (h' : StablySorts numbers order') : order = order' := by
  refine List.Perm.eq_of_pairwise ?_ h.pairwise h'.pairwise (h.perm.trans h'.perm.symm)
  intro i j hi hj hij hji
  have hi' : i < numbers.length := List.mem_range.mp (h.perm.mem_iff.mp hi)
  have hj' : j < numbers.length := List.mem_range.mp (h'.perm.mem_iff.mp hj)
  obtain ⟨hle, hlt⟩ := hij _ (List.getElem?_eq_getElem hi') _ (List.getElem?_eq_getElem hj')
  obtain ⟨hle', hlt'⟩ := hji _ (List.getElem?_eq_getElem hj') _ (List.getElem?_eq_getElem hi')
  have hsame := eq_of_orderedBefore hle hle'
  exact absurd (hlt hsame) (Nat.lt_asymm (hlt' hsame.symm))

/-! ### Lists taken in an order -/

section Arranged

variable {α β γ : Type} {order : List ℕ} {xs ys : List α} {zs ws : List β}

/-- Whether a list has the elements of another, taken from the given positions. -/
def Arranged (order : List ℕ) (xs ys : List α) : Prop := ys.map some = order.map (xs[·]?)

namespace Arranged

lemma map (h : Arranged order xs ys) (f : α → β) : Arranged order (xs.map f) (ys.map f) := by
  rw [Arranged, List.map_map]
  calc ys.map (some ∘ f) = (ys.map some).map (Option.map f) := by rw [List.map_map]; rfl
    _ = order.map ((xs.map f)[·]?) := by
      rw [h, List.map_map]
      exact List.map_congr_left fun i _ => List.getElem?_map.symm

lemma zipWith (h : Arranged order xs ys) (h' : Arranged order zs ws) (f : α → β → γ) :
    Arranged order (List.zipWith f xs zs) (List.zipWith f ys ws) := by
  have hsome : (List.zipWith f ys ws).map some
      = List.zipWith (Option.map₂ f) (ys.map some) (ws.map some) := by
    rw [List.map_zipWith, List.zipWith_map]
    rfl
  rw [Arranged, hsome, h, h', List.zipWith_map, List.zipWith_self]
  refine List.map_congr_left fun i _ => ?_
  rw [List.getElem?_zipWith]
  cases xs[i]? <;> cases zs[i]? <;> rfl

end Arranged

end Arranged

/-! ### Sorted lists -/

/-- A list that is sorted by problem numbers has its elements in the order of their numbers, and
those of the same number in their own order. -/
lemma exists_arranged_mergeSort {α : Type} (key : α → Option ProblemNumber) (xs : List α) :
    ∃ order, StablySorts (xs.map key) order
      ∧ Arranged order xs (xs.mergeSort fun a b => orderedBefore (key a) (key b)) := by
  -- the elements are sorted with their positions, which decide where the numbers are the same
  let le : α → α → Bool := fun a b => orderedBefore (key a) (key b)
  let placed := xs.zipIdx.mergeSort (zipIdxLE le)
  -- each element knows where it stood
  have hmem : ∀ p ∈ placed, xs[p.2]? = some p.1 := by
    intro p hp
    exact List.mk_mem_zipIdx_iff_getElem?.mp (List.mem_mergeSort.mp hp)
  have hperm : (placed.map Prod.snd).Perm (List.range (xs.map key).length) := by
    have hindices : xs.zipIdx.map Prod.snd = List.range (xs.map key).length := by
      rw [List.zipIdx_map_snd, List.length_map, List.range_eq_range']
    exact hindices ▸ (List.mergeSort_perm _ _).map _
  have hsorted : placed.Pairwise fun p q => zipIdxLE le p q = true :=
    List.pairwise_mergeSort
      (List.zipIdxLE_trans fun a b c => orderedBefore_trans (key a) (key b) (key c))
      (List.zipIdxLE_total fun a b => orderedBefore_total (key a) (key b)) _
  refine ⟨placed.map Prod.snd, ⟨hperm, ?_⟩, ?_⟩
  · have hdistinct : placed.Pairwise fun p q => p.2 ≠ q.2 :=
      List.pairwise_map.mp (hperm.nodup_iff.mpr List.nodup_range)
    rw [List.pairwise_map]
    refine (hsorted.and hdistinct).imp_of_mem fun {p q} hp hq hpq n hn m hm => ?_
    rw [Option.mem_def, List.getElem?_map, hmem p hp, Option.map_some, Option.some.injEq] at hn
    rw [Option.mem_def, List.getElem?_map, hmem q hq, Option.map_some, Option.some.injEq] at hm
    obtain ⟨hbefore, hne⟩ := hpq
    rw [zipIdxLE, Bool.if_false_right, Bool.and_eq_true, decide_eq_true_eq] at hbefore
    obtain ⟨hle, htie⟩ := hbefore
    refine ⟨hn ▸ hm ▸ hle, fun hsame => ?_⟩
    -- of two with the same number, the earlier one comes first
    have hback : orderedBefore (key q.1) (key p.1) = true := by
      rw [hn, hm, hsame, orderedBefore_self]
    rw [if_pos hback, decide_eq_true_eq] at htie
    exact Nat.lt_of_le_of_ne htie hne
  · -- without the positions, this is the sorted list
    rw [Arranged, ← List.mergeSort_zipIdx, List.map_map, List.map_map]
    exact List.map_congr_left fun p hp => (hmem p hp).symm

/-- The lines of a text are sorted by the numbers that they have. -/
lemma exists_arranged_sortedLines (s : Text) :
    ∃ order, StablySorts ((writtenLines s).map ProblemNumber.ofLine?) order
      ∧ Arranged order (writtenLines s) (sortedLines s) :=
  exists_arranged_mergeSort ProblemNumber.ofLine? (writtenLines s)

end Grading
