/-
Sorting the lines of a text by their problem numbers loses nothing and is stable.

* `ProblemNumber.rank`, `ProblemNumber.le_iff_rank_le`: the order of problem numbers is that of
  pairs, where a missing part is less than any letter;
* `ProblemNumber.ofLine?_eq_some_iff`: the number of a line is spelled before its first point;
* `StablySorted`: a list of lines has the same lines as another, in the order of their numbers, and
  those of the same number, or of none, as they stood there;
* `eq_of_filter_eq`: two lists in order are the same if they are for each number;
* `stablySorted_sortedLines`, `sortLines_eq_iff`: there is exactly one such list, which is what a
  sorted text is put together from.
-/
import Grading.Proofs.Numbering.Order
import Grading.Proofs.Numbering.Written
import Mathlib

namespace Grading

open Text (writtenLines)

/-! ### The order of pairs -/

namespace ProblemNumber

variable {p q : ProblemNumber}

/-- The number with its part, where a missing part is less than any letter. -/
def rank (p : ProblemNumber) : ℕ ×ₗ WithBot Char := toLex (p.number, p.part.elim ⊥ WithBot.some)

lemma partLe_iff {c d : Option Char} :
    partLe c d = true ↔ (c.elim ⊥ WithBot.some : WithBot Char) ≤ d.elim ⊥ WithBot.some := by
  cases c with
  | none => exact iff_of_true rfl bot_le
  | some c =>
      cases d with
      | none => exact iff_of_false Bool.false_ne_true (WithBot.not_coe_le_bot c)
      | some d => exact decide_eq_true_iff.trans WithBot.coe_le_coe.symm

/-- Problem numbers are in the order of the pairs of number and part. -/
lemma le_iff_rank_le : p.le q = true ↔ p.rank ≤ q.rank := by
  rw [le_iff, rank, rank, Prod.Lex.toLex_le_toLex, partLe_iff]

end ProblemNumber

/-! ### Lists in order -/

section Sorted

variable {α : Type} {key : α → Option ProblemNumber} {xs ys : List α}

lemma mem_filter_key {n : Option ProblemNumber} {a : α} :
    a ∈ xs.filter (fun a => key a = n) ↔ a ∈ xs ∧ key a = n := by
  rw [List.mem_filter, decide_eq_true_iff]

/-- The elements of a number keep their order when the list is sorted. -/
lemma filter_mergeSort (key : α → Option ProblemNumber) (n : Option ProblemNumber) (xs : List α) :
    (xs.mergeSort fun a b => orderedBefore (key a) (key b)).filter (fun a => key a = n)
      = xs.filter fun a => key a = n := by
  let le : α → α → Bool := fun a b => orderedBefore (key a) (key b)
  -- they are in order as they stand, so that sorting keeps them as they stand
  have hordered : (xs.filter fun a => key a = n).Pairwise fun a b => le a b = true := by
    refine List.pairwise_of_forall_mem_list fun a ha b hb => ?_
    change orderedBefore (key a) (key b) = true
    rw [(mem_filter_key.mp ha).2, (mem_filter_key.mp hb).2, orderedBefore_self]
  have hsublist : (xs.filter fun a => key a = n).Sublist (xs.mergeSort le) :=
    List.sublist_mergeSort (fun a b c => orderedBefore_trans (key a) (key b) (key c))
      (fun a b => orderedBefore_total (key a) (key b)) hordered List.filter_sublist
  have hkept := hsublist.filter fun a => key a = n
  simp only [List.filter_filter, Bool.and_self] at hkept
  exact (hkept.eq_of_length ((List.mergeSort_perm xs le).filter _).length_eq.symm).symm

/-- Lists that have the same elements of each number have the same elements. -/
lemma mem_iff_of_filter_eq
    (h : ∀ n, xs.filter (fun a => key a = n) = ys.filter fun a => key a = n) {a : α} :
    a ∈ xs ↔ a ∈ ys := by
  have hmem : ∀ zs : List α, a ∈ zs ↔ a ∈ zs.filter fun b => key b = key a :=
    fun zs => (mem_filter_key.trans (and_iff_left rfl)).symm
  rw [hmem xs, hmem ys, h]

/-- Two lists in order are the same if they have the same elements of each number, in the same
order. -/
lemma eq_of_filter_eq (hxs : xs.Pairwise fun a b => orderedBefore (key a) (key b) = true)
    (hys : ys.Pairwise fun a b => orderedBefore (key a) (key b) = true)
    (h : ∀ n, xs.filter (fun a => key a = n) = ys.filter fun a => key a = n) : xs = ys := by
  induction xs generalizing ys with
  | nil =>
      refine (List.eq_nil_iff_forall_not_mem.mpr fun b hb => ?_).symm
      exact List.not_mem_nil ((mem_iff_of_filter_eq h).mpr hb)
  | cons a xs ih =>
      cases ys with
      | nil => exact absurd ((mem_iff_of_filter_eq h).mp List.mem_cons_self) List.not_mem_nil
      | cons b ys =>
          obtain ⟨hfirst, hrest⟩ := List.pairwise_cons.mp hxs
          obtain ⟨hfirst', hrest'⟩ := List.pairwise_cons.mp hys
          -- each of the first elements stands in the other list too, so they have the same number
          have ha : a ∈ b :: ys := (mem_iff_of_filter_eq h).mp List.mem_cons_self
          have hb : b ∈ a :: xs := (mem_iff_of_filter_eq h).mpr List.mem_cons_self
          have hsame : key a = key b := by
            rcases List.mem_cons.mp ha with rfl | ha
            · rfl
            · rcases List.mem_cons.mp hb with rfl | hb
              · rfl
              · exact eq_of_orderedBefore (hfirst b hb) (hfirst' a ha)
          -- of that number they are the first, and so the same
          have heads := h (key a)
          rw [List.filter_cons_of_pos (by simp), List.filter_cons_of_pos (by simp [hsame])] at heads
          obtain ⟨rfl, -⟩ := List.cons.inj heads
          refine congrArg (a :: ·) (ih hrest hrest' fun n => ?_)
          have htails := h n
          rw [List.filter_cons, List.filter_cons] at htails
          split_ifs at htails
          · exact (List.cons.inj htails).2
          · exact htails

end Sorted

/-! ### Sorted lines -/

/-- A line has a problem number exactly if a text before a point spells it, blanks apart. -/
theorem ProblemNumber.ofLine?_eq_some_iff {line : Text} {p : ProblemNumber} :
    ofLine? line = some p
      ↔ ∃ before after : Text, line.trim = before ++ '.' :: after ∧ Spells before.trim p := by
  constructor
  · intro h
    cases hnumbered : numbered? line with
    | none => simp [ofLine?, splitNumber, hnumbered] at h
    | some parts =>
        obtain ⟨label, text⟩ := parts
        obtain ⟨before, after, hline, -, -, rfl, -⟩ := numbered?_eq_some_iff.mp hnumbered
        rw [ofLine?, splitNumber, hnumbered, Option.bind_some, ofText?_eq_some_iff,
          Text.trim_trim] at h
        exact ⟨before, after, hline, h⟩
  · rintro ⟨before, after, hline, hspells⟩
    -- no point stands in what spells a number, so that this is the first of the line
    have hpoint : '.' ∉ before := fun h =>
      absurd (Text.mem_trim_of_not_blank h (by decide)) (hspells.notMem (by decide))
    have hnumbered : numbered? line = some (before.trim, after.trim) :=
      numbered?_eq_some_iff.mpr ⟨before, after, hline, hpoint, hspells.isLabel, rfl, rfl⟩
    rw [ofLine?, splitNumber, hnumbered]
    exact hspells.ofText?

/-- Whether lines are those of a text, sorted by their problem numbers. -/
structure StablySorted (lines sorted : List Text) : Prop where
  /-- They are the same lines. -/
  perm : sorted.Perm lines
  /-- Lines with a number come first. -/
  unreadable_last : sorted.Pairwise fun a b =>
    (ProblemNumber.ofLine? b).isSome = true → (ProblemNumber.ofLine? a).isSome = true
  /-- They are in the order of number and part. -/
  ordered : sorted.Pairwise fun a b =>
    ∀ p ∈ ProblemNumber.ofLine? a, ∀ q ∈ ProblemNumber.ofLine? b, p.rank ≤ q.rank
  /-- Lines of the same number, and lines without one, keep their order. -/
  stable : ∀ n, (sorted.filter fun l => ProblemNumber.ofLine? l = n)
    = lines.filter fun l => ProblemNumber.ofLine? l = n

/-- What it means that a line may come before another. -/
lemma orderedBefore_iff {p q : Option ProblemNumber} :
    orderedBefore p q = true
      ↔ (q.isSome = true → p.isSome = true) ∧ ∀ n ∈ p, ∀ m ∈ q, n.rank ≤ m.rank := by
  cases p <;> cases q <;> simp [orderedBefore, ProblemNumber.le_iff_rank_le]

lemma StablySorted.pairwise {lines sorted : List Text} (h : StablySorted lines sorted) :
    sorted.Pairwise fun a b =>
      orderedBefore (ProblemNumber.ofLine? a) (ProblemNumber.ofLine? b) = true :=
  (h.unreadable_last.and h.ordered).imp orderedBefore_iff.mpr

lemma stablySorted_sortedLines (s : Text) : StablySorted (writtenLines s) (sortedLines s) := by
  have hordered : (sortedLines s).Pairwise fun a b =>
      orderedBefore (ProblemNumber.ofLine? a) (ProblemNumber.ofLine? b) = true :=
    List.pairwise_mergeSort
      (fun a b c => orderedBefore_trans (ProblemNumber.ofLine? a) (ProblemNumber.ofLine? b)
        (ProblemNumber.ofLine? c))
      (fun a b => orderedBefore_total (ProblemNumber.ofLine? a) (ProblemNumber.ofLine? b))
      (writtenLines s)
  exact ⟨List.mergeSort_perm _ _, hordered.imp fun h => (orderedBefore_iff.mp h).1,
    hordered.imp fun h => (orderedBefore_iff.mp h).2,
    fun n => filter_mergeSort ProblemNumber.ofLine? n (writtenLines s)⟩

/-- **Sorting the lines of a text**: what comes out are its lines that are not blank, each with a
line end, those with a problem number first and in the order of number and part, and lines of the
same number, or without one, as they stood. There is only one such text. -/
theorem sortLines_eq_iff (s out : Text) :
    sortLines s = out ↔ ∃ sorted, StablySorted (writtenLines s) sorted
      ∧ out = sorted.flatMap fun line => line ++ ['\n'] := by
  constructor
  · rintro rfl
    exact ⟨sortedLines s, stablySorted_sortedLines s, rfl⟩
  · rintro ⟨sorted, hsorted, rfl⟩
    have hself := stablySorted_sortedLines s
    have hsame : sortedLines s = sorted := eq_of_filter_eq hself.pairwise hsorted.pairwise
      fun n => (hself.stable n).trans (hsorted.stable n).symm
    rw [sortLines, hsame]

end Grading
