/-
What stands between two words of a text.

* `occurrences`: how often a word occurs, overlaps counted;
* `before?`, `between?`: what stands before the first occurrence of a word, and between the first
  occurrence of one word and the next one of another;
* `after?_eq_some_iff`: what follows a word follows the leftmost place where it stands;
* `after?_append`, `before?_append`: the word that occurs only once is the one that is found.
-/
import Grading.Text.Basic
import Mathlib.Tactic

namespace Grading

namespace Text

variable {word s t u v : Text} {c : Char}

/-! ### How often a word occurs -/

/-- At how many positions of a text a word starts. -/
def occurrences (word s : Text) : Nat := s.tails.countP fun t => word.isPrefixOf t

lemma occurrences_cons (word : Text) (c : Char) (s : Text) :
    occurrences word (c :: s)
      = occurrences word s + if word.isPrefixOf (c :: s) = true then 1 else 0 := by
  rw [occurrences, List.tails_cons, List.countP_cons]
  rfl

/-- A word that stands in a text occurs in it. -/
lemma one_le_occurrences (word u v : Text) : 1 ≤ occurrences word (u ++ (word ++ v)) := by
  rw [occurrences, Nat.one_le_iff_ne_zero, ← Nat.pos_iff_ne_zero, List.countP_pos_iff]
  refine ⟨word ++ v, ?_, by simp⟩
  rw [List.mem_tails]
  exact List.suffix_append u (word ++ v)

lemma occurrences_le_append (word u s : Text) : occurrences word s ≤ occurrences word (u ++ s) := by
  induction u with
  | nil => exact Nat.le_refl _
  | cons c u ih =>
      rw [List.cons_append, occurrences_cons]
      omega

/-- In front of the only occurrence of a word, the word does not start. -/
lemma isPrefixOf_eq_false (h : occurrences word (c :: u ++ (word ++ v)) ≤ 1) :
    word.isPrefixOf (c :: u ++ (word ++ v)) = false := by
  have hlater := one_le_occurrences word u v
  rw [List.cons_append, occurrences_cons] at h
  rw [← Bool.not_eq_true, List.cons_append]
  intro hprefix
  rw [if_pos hprefix] at h
  omega

/-! ### Before and after a word -/

/-- What stands before the first occurrence of a word, or `none` if it does not occur. -/
def before? (word : Text) : Text → Option Text
  | [] => if word.isPrefixOf [] then some [] else none
  | c :: s => if word.isPrefixOf (c :: s) then some [] else (before? word s).map (c :: ·)

/-- What stands between the first occurrence of one word and the next occurrence of another. -/
def between? (opening closing s : Text) : Option Text := (after? opening s).bind (before? closing)

lemma after?_self_append (word v : Text) : after? word (word ++ v) = some v := by
  have hprefix : word.isPrefixOf? (word ++ v) = some v :=
    List.isPrefixOf?_eq_some_iff_append_eq.mpr rfl
  cases hs : word ++ v with
  | nil => rw [after?, ← hs, hprefix]
  | cons c s => rw [after?, ← hs, hprefix]

lemma before?_self_append (word v : Text) : before? word (word ++ v) = some [] := by
  have hprefix : word.isPrefixOf (word ++ v) = true := by simp
  cases hs : word ++ v with
  | nil => rw [before?, ← hs, if_pos hprefix]
  | cons c s => rw [before?, ← hs, if_pos hprefix]

/-- Whether the word stands in a text between `u` and `v`, and nowhere further to the left. -/
structure Leftmost (word u v s : Text) : Prop where
  eq : s = u ++ (word ++ v)
  le : ∀ {a b : Text}, s = a ++ (word ++ b) → u.length ≤ a.length

/-- The word at the start of a text stands nowhere further to the left. -/
lemma Leftmost.eq_of_start (h : Leftmost word u v (word ++ t)) : v = t := by
  have hu : u = [] := List.length_eq_zero_iff.mp (Nat.le_zero.mp (h.le (List.nil_append _).symm))
  have heq := h.eq
  rw [hu, List.nil_append] at heq
  exact (List.append_cancel_left heq).symm

lemma leftmost_cons_iff (h : ¬ word <+: c :: s) :
    Leftmost word u v (c :: s) ↔ ∃ w, u = c :: w ∧ Leftmost word w v s := by
  -- what stands before the word is not empty, or the text would start with it
  have hnonempty : ∀ {a b : Text}, c :: s = a ++ (word ++ b) →
      ∃ w, a = c :: w ∧ s = w ++ (word ++ b) := by
    intro a b hab
    cases a with
    | nil => exact absurd ⟨b, hab.symm⟩ h
    | cons d a =>
        obtain ⟨rfl, hs⟩ := List.cons.inj hab
        exact ⟨a, rfl, hs⟩
  constructor
  · rintro ⟨heq, hle⟩
    obtain ⟨w, rfl, hs⟩ := hnonempty heq
    exact ⟨w, rfl, hs, fun {a b} hab =>
      Nat.le_of_succ_le_succ (hle (a := c :: a) (b := b) (congrArg (c :: ·) hab))⟩
  · rintro ⟨w, rfl, hs, hle⟩
    refine ⟨congrArg (c :: ·) hs, fun hab => ?_⟩
    obtain ⟨a, rfl, hs⟩ := hnonempty hab
    exact Nat.succ_le_succ (hle hs)

/-- What follows a word follows the leftmost place where it stands. -/
lemma after?_eq_some_iff : after? word s = some v ↔ ∃ u, Leftmost word u v s := by
  induction s with
  | nil =>
      rw [after?, List.isPrefixOf?_eq_some_iff_append_eq]
      constructor
      · intro h
        exact ⟨[], h.symm, fun _ => Nat.zero_le _⟩
      · rintro ⟨u, heq, -⟩
        exact (List.append_eq_nil_iff.mp heq.symm).2
  | cons c s ih =>
      rw [after?]
      split
      case h_1 rest hrest =>
        have heq : word ++ rest = c :: s := List.isPrefixOf?_eq_some_iff_append_eq.mp hrest
        rw [← heq, Option.some.injEq]
        constructor
        · rintro rfl
          exact ⟨[], rfl, fun _ => Nat.zero_le _⟩
        · rintro ⟨u, hu⟩
          exact hu.eq_of_start.symm
      case h_2 hnone =>
        have hstart : ¬ word <+: c :: s := by
          rintro ⟨rest, hrest⟩
          rw [List.isPrefixOf?_eq_some_iff_append_eq.mpr hrest] at hnone
          cases hnone
        rw [ih]
        simp only [leftmost_cons_iff hstart]
        exact ⟨fun ⟨w, hw⟩ => ⟨c :: w, w, rfl, hw⟩, fun ⟨_, w, _, hw⟩ => ⟨w, hw⟩⟩

/-- A word that occurs only once is found where it stands. -/
lemma after?_append (h : occurrences word (u ++ (word ++ v)) ≤ 1) :
    after? word (u ++ (word ++ v)) = some v := by
  induction u with
  | nil => exact after?_self_append word v
  | cons c u ih =>
      have hnone : word.isPrefixOf? (c :: u ++ (word ++ v)) = none := by
        rw [← Option.isNone_iff_eq_none, ← Option.not_isSome, List.isSome_isPrefixOf?_eq_isPrefixOf,
          isPrefixOf_eq_false h]
        rfl
      have hrest := ih ((occurrences_le_append word [c] _).trans h)
      rw [List.cons_append] at hnone ⊢
      rw [after?, hnone]
      exact hrest

lemma before?_append (h : occurrences word (u ++ (word ++ v)) ≤ 1) :
    before? word (u ++ (word ++ v)) = some u := by
  induction u with
  | nil => exact before?_self_append word v
  | cons c u ih =>
      have hstart := isPrefixOf_eq_false h
      have hrest := ih ((occurrences_le_append word [c] _).trans h)
      rw [List.cons_append] at hstart ⊢
      rw [before?, if_neg (by simp [hstart]), hrest]
      rfl

/-- A word is not found before its first character. -/
lemma before?_append_of_notMem (h : c ∉ u) :
    before? (c :: word) (u ++ (c :: word ++ v)) = some u := by
  induction u with
  | nil => exact before?_self_append (c :: word) v
  | cons a u ih =>
      rw [List.mem_cons, not_or] at h
      rw [List.cons_append, before?, if_neg (by simp [h.1]), ih h.2]
      rfl

end Text

end Grading
