/-
Ranges of problems.

* `Ascending`, `Ascending.unique`: the problems of a kind, each of them once, in ascending order;
  there is only one such list of them;
* `ascending_numberRange`, `ascending_partRange`: the problems from one number or letter to another.
-/
import Grading.Numbering.Listing
import Grading.Proofs.Numbering.Order
import Grading.Proofs.Text.Lowered

namespace Grading

variable {P : ProblemNumber → Prop} {ps qs : List ProblemNumber} {c d : Char}

/-- The problems of a kind, each of them once, in ascending order. -/
structure Ascending (P : ProblemNumber → Prop) (qs : List ProblemNumber) : Prop where
  sorted : qs.Pairwise fun p q => p.le q = true ∧ p ≠ q
  mem_iff : ∀ q, q ∈ qs ↔ P q

/-- There is only one list of the problems of a kind in ascending order. -/
lemma Ascending.unique (hps : Ascending P ps) (hqs : Ascending P qs) : ps = qs := by
  have hperm : ps.Perm qs := by
    have hnodup : ∀ {rs}, Ascending P rs → rs.Nodup := fun h => h.sorted.imp And.right
    rw [List.perm_ext_iff_of_nodup (hnodup hps) (hnodup hqs)]
    intro q
    rw [hps.mem_iff, hqs.mem_iff]
  refine List.Perm.eq_of_pairwise ?_ hps.sorted hqs.sorted hperm
  intro p q _ _ hpq hqp
  exact ProblemNumber.eq_of_le hpq.1 hqp.1

/-- The problems without a part from one number to another, those of the parity only if there is
one. -/
def InNumbers (parity : Option Parity) (first last : Nat) (q : ProblemNumber) : Prop :=
  q.part = none ∧ first ≤ q.number ∧ q.number ≤ last ∧ ∀ p ∈ parity, p.accepts q.number = true

lemma ascending_numberRange (parity : Option Parity) (first last : Nat) :
    Ascending (InNumbers parity first last) (numberRange parity first last) where
  sorted := by
    rw [numberRange, List.pairwise_map]
    refine (List.Pairwise.filter _ (List.pairwise_lt_range' 1)).imp fun hlt => ⟨?_, ?_⟩
    · exact ProblemNumber.le_iff.mpr (Or.inl hlt)
    · rintro h
      exact Nat.ne_of_lt hlt (ProblemNumber.mk.inj h).1
  mem_iff := by
    rintro ⟨n, part⟩
    rw [numberRange, InNumbers, List.mem_map]
    simp only [List.mem_filter, List.mem_range'_1, Option.all_eq_true, ProblemNumber.mk.injEq]
    constructor
    · rintro ⟨m, ⟨hrange, hparity⟩, rfl, rfl⟩
      exact ⟨rfl, by omega, by omega, hparity⟩
    · rintro ⟨rfl, hfirst, hlast, hparity⟩
      exact ⟨n, ⟨by omega, hparity⟩, rfl, rfl⟩

/-- The parts of a problem from one letter to another. -/
def InParts (number : Nat) (first last : Char) (q : ProblemNumber) : Prop :=
  q.number = number ∧ ∃ c, q.part = some c ∧ first ≤ c ∧ c ≤ last

lemma le_iff_toNat_le : c ≤ d ↔ c.toNat ≤ d.toNat := UInt32.le_iff_toNat_le

lemma ascending_partRange (number : Nat) (first : Char) {last : Char} (h : last.toNat < 0xD800) :
    Ascending (InParts number first last) (partRange number first last) where
  sorted := by
    rw [partRange, List.pairwise_map]
    refine List.Pairwise.imp_of_mem ?_ (List.pairwise_lt_range' 1)
    intro m n hm hn hlt
    rw [List.mem_range'_1] at hm hn
    have hletter : (Char.ofNat m).toNat < (Char.ofNat n).toNat := by
      rw [Text.toNat_ofNat (Or.inl (by omega)), Text.toNat_ofNat (Or.inl (by omega))]
      exact hlt
    refine ⟨ProblemNumber.le_iff.mpr (Or.inr ⟨rfl, ?_⟩), ?_⟩
    · exact decide_eq_true (le_iff_toNat_le.mpr hletter.le)
    · intro hsame
      rw [ProblemNumber.mk.injEq, Option.some.injEq] at hsame
      exact Nat.ne_of_lt hletter (congrArg Char.toNat hsame.2)
  mem_iff := by
    rintro ⟨n, part⟩
    rw [partRange, InParts, List.mem_map]
    simp only [List.mem_range'_1, ProblemNumber.mk.injEq, le_iff_toNat_le]
    constructor
    · rintro ⟨m, hm, rfl, rfl⟩
      refine ⟨rfl, Char.ofNat m, rfl, ?_⟩
      rw [Text.toNat_ofNat (Or.inl (by omega))]
      omega
    · rintro ⟨rfl, c, rfl, hfirst, hlast⟩
      exact ⟨c.toNat, by omega, rfl, congrArg some (Char.ofNat_toNat c)⟩

end Grading
