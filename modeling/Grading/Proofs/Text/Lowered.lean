/-
Lower case, and that a text in lower case stays as it is.

* `CaseRun.misses`, `CaseRun.assign?_eq_none`: a run of a case mapping that maps nothing into
  another run;
* `Lowered`: a character that lowering leaves as it is, wherever it stands;
* `lowered_of_mem_lower`, `lower_eq_self`: a text in lower case consists of such characters, and
  lowering changes no text that does;
* `isBlank_eq_false_of_mem_lower`, `tight_lower`: lowering puts no blank into a text or at its ends.
-/
import Grading.Proofs.Text.Trim
import Grading.Text.Case
import Mathlib.Data.Bool.AllAny

namespace Grading

namespace Text

variable {c : Char} {s t before : Text}

/-! ### Runs -/

/-- The least code point that the run maps to. -/
def CaseRun.low (r : CaseRun) : Nat := (r.first + r.shift).toNat

/-- The greatest code point that the run maps to. -/
def CaseRun.high (r : CaseRun) : Nat := (r.last + r.shift).toNat

/-- Whether the run `r` maps no code point into the run `q`. This can be told from the ends of the
runs and, where `q` goes in steps of two, from the parity of what `r` maps to. -/
def CaseRun.misses (r q : CaseRun) : Bool :=
  Nat.blt r.high q.first || Nat.blt q.last r.low
    || (r.step == 2 || r.first == r.last) && q.step == 2 && (r.low + q.first) % 2 == 1

/-- Whether the run maps to characters only, and so to no surrogate. -/
def CaseRun.mapsToChars (r : CaseRun) : Bool :=
  decide (0 ≤ r.first + r.shift)
    && (Nat.blt r.high 0xD800 || Nat.blt 0xDFFF r.low && Nat.blt r.high 0x110000)

lemma CaseRun.assign?_eq_some_iff {r : CaseRun} {n m : Nat} :
    r.assign? n = some m
      ↔ (r.first ≤ n ∧ n ≤ r.last ∧ (n - r.first) % r.step = 0) ∧ (n + r.shift).toNat = m := by
  rw [CaseRun.assign?]
  split
  case isTrue h => simp [h]
  case isFalse h => simp [h]

/-- What a run maps to lies between the ends of what it maps to. -/
lemma CaseRun.mem_low_high {r : CaseRun} {n m : Nat} (hchars : r.mapsToChars = true)
    (h : r.assign? n = some m) : m = r.low + (n - r.first) ∧ r.low ≤ m ∧ m ≤ r.high := by
  obtain ⟨⟨hfirst, hlast, -⟩, rfl⟩ := CaseRun.assign?_eq_some_iff.mp h
  rw [CaseRun.mapsToChars, Bool.and_eq_true, decide_eq_true_eq] at hchars
  have hnonneg := hchars.1
  rw [CaseRun.low, CaseRun.high]
  omega

/-- What such a run maps to does not belong to the other one. -/
lemma CaseRun.assign?_eq_none {r q : CaseRun} {n m : Nat} (hmiss : r.misses q = true)
    (hchars : r.mapsToChars = true) (h : r.assign? n = some m) : q.assign? m = none := by
  obtain ⟨⟨hfirst, hlast, hstep⟩, -⟩ := CaseRun.assign?_eq_some_iff.mp h
  obtain ⟨hm, hlow, hhigh⟩ := CaseRun.mem_low_high hchars h
  rw [CaseRun.assign?, if_neg]
  rintro ⟨hqfirst, hqlast, hqstep⟩
  simp only [CaseRun.misses, Bool.or_eq_true, Bool.and_eq_true, beq_iff_eq, Nat.blt_eq] at hmiss
  rcases hmiss with (habove | hbelow) | ⟨⟨hparity, hqtwo⟩, hodd⟩
  · omega
  · omega
  · rw [hqtwo] at hqstep
    rcases hparity with hrtwo | hsingle
    · rw [hrtwo] at hstep
      omega
    · omega

lemma CaseRun.isValidChar_of_assign? {r : CaseRun} {n m : Nat} (hchars : r.mapsToChars = true)
    (h : r.assign? n = some m) : m.isValidChar := by
  obtain ⟨-, hlow, hhigh⟩ := CaseRun.mem_low_high hchars h
  simp only [CaseRun.mapsToChars, Bool.or_eq_true, Bool.and_eq_true, decide_eq_true_eq,
    Nat.blt_eq] at hchars
  rcases hchars.2 with hbelow | ⟨habove, hlast⟩
  · exact Or.inl (by omega)
  · exact Or.inr ⟨by omega, by omega⟩

/-! ### Characters in lower case -/

/-- A character that lowering leaves as it is, wherever it stands. -/
def Lowered (c : Char) : Prop := c ≠ 'Σ' ∧ lowerChar c = [c]

instance (c : Char) : Decidable (Lowered c) := inferInstanceAs (Decidable (_ ∧ _))

/-- What no character in lower case belongs to: the capitals, the dotted capital I, and blanks. -/
def unloweredRuns : List CaseRun :=
  lowerRuns ++ ⟨0x130, 0x130, 1, 0⟩ :: blankRanges.map fun r => ⟨r.1, r.2, 1, 0⟩

/-- No capital is mapped to any of these. -/
lemma misses_of_mem_lowerRuns {r q : CaseRun} (hr : r ∈ lowerRuns) (hq : q ∈ unloweredRuns) :
    r.misses q = true := by
  have hall : (lowerRuns.all fun r => unloweredRuns.all r.misses) = true := by decide +kernel
  exact List.all_eq_true.mp (List.all_eq_true.mp hall r hr) q hq

lemma mapsToChars_of_mem_lowerRuns {r : CaseRun} (hr : r ∈ lowerRuns) : r.mapsToChars = true := by
  have hall : (lowerRuns.all CaseRun.mapsToChars) = true := by decide +kernel
  exact List.all_eq_true.mp hall r hr

/-- A character that belongs to no run and is not the dotted capital I is in lower case. -/
lemma lowered_of_assign? (hdotted : c ≠ '\u0130')
    (h : ∀ q ∈ lowerRuns, q.assign? c.toNat = none) : Lowered c := by
  have hnone : lowerRuns.findSome? (·.assign? c.toNat) = none :=
    List.findSome?_eq_none_iff.mpr h
  refine ⟨?_, ?_⟩
  · rintro rfl
    exact absurd hnone (by decide)
  · rw [lowerChar, if_neg hdotted, CaseRun.image, hnone]

lemma toNat_ofNat {n : Nat} (h : n.isValidChar) : (Char.ofNat n).toNat = n := by
  rw [Char.ofNat, dif_pos h]
  rfl

/-- A character that belongs to none of the runs is in lower case, and no blank. -/
lemma lowered_of_unloweredRuns (h : ∀ q ∈ unloweredRuns, q.assign? c.toNat = none) :
    Lowered c ∧ isBlank c = false := by
  have hsingle : ∀ q ∈ unloweredRuns, q.step = 1 → ¬ (q.first ≤ c.toNat ∧ c.toNat ≤ q.last) := by
    rintro q hq hstep ⟨hfirst, hlast⟩
    have hnone := h q hq
    rw [CaseRun.assign?, if_pos ⟨hfirst, hlast, by rw [hstep, Nat.mod_one]⟩] at hnone
    cases hnone
  refine ⟨lowered_of_assign? ?_ fun q hq => h q (List.mem_append_left _ hq), ?_⟩
  · rintro rfl
    exact hsingle ⟨0x130, 0x130, 1, 0⟩ (by simp [unloweredRuns]) rfl (by decide)
  · rw [isBlank, inRanges, List.any_eq_false]
    intro r hr
    have hblank := hsingle ⟨r.1, r.2, 1, 0⟩
      (List.mem_append_right _ (List.mem_cons_of_mem _ (List.mem_map_of_mem hr))) rfl
    simpa using hblank

/-- What a capital is lowered to is in lower case, and no blank. -/
lemma lowered_of_assign?_eq_some {r : CaseRun} {n m : Nat} (hr : r ∈ lowerRuns)
    (h : r.assign? n = some m) : Lowered (Char.ofNat m) ∧ isBlank (Char.ofNat m) = false := by
  have hchars := mapsToChars_of_mem_lowerRuns hr
  refine lowered_of_unloweredRuns fun q hq => ?_
  rw [toNat_ofNat (CaseRun.isValidChar_of_assign? hchars h)]
  exact CaseRun.assign?_eq_none (misses_of_mem_lowerRuns hr hq) hchars h

/-- The lower-case form of a character other than the capital sigma: the character itself or
something that is no blank, and in lower case either way. -/
lemma lowered_of_mem_lowerChar {d : Char} (hsigma : c ≠ 'Σ') (hd : d ∈ lowerChar c) :
    Lowered d ∧ (d = c ∨ isBlank d = false) := by
  rw [lowerChar] at hd
  split at hd
  case isTrue =>
    have hdotted : ∀ d ∈ ['i', '\u0307'], Lowered d ∧ isBlank d = false :=
      List.all_iff_forall_prop.mp (by decide)
    exact (hdotted d hd).imp_right Or.inr
  case isFalse hc =>
    rw [List.mem_singleton, CaseRun.image] at hd
    cases hfind : lowerRuns.findSome? (·.assign? c.toNat) with
    | none =>
        obtain rfl : d = c := by rw [hd, hfind]
        exact ⟨lowered_of_assign? hc (List.findSome?_eq_none_iff.mp hfind), Or.inl rfl⟩
    | some m =>
        obtain rfl : d = Char.ofNat m := by rw [hd, hfind]
        obtain ⟨r, hr, hassign⟩ := List.exists_of_findSome?_eq_some hfind
        exact (lowered_of_assign?_eq_some hr hassign).imp_right Or.inr

/-- The characters before the first capital are in lower case. -/
lemma lowered_of_lt (h : c.toNat < 0x41) : Lowered c := by
  have hfirst : (lowerRuns.all fun q => decide (0x41 ≤ q.first)) = true := by decide
  refine lowered_of_assign? ?_ fun q hq => ?_
  · rintro rfl
    exact absurd h (by decide)
  · have hq41 := of_decide_eq_true (List.all_eq_true.mp hfirst q hq)
    rw [CaseRun.assign?, if_neg (by omega)]

/-! ### Texts in lower case -/

/-- What stands for the first character of a text when it is lowered. -/
def lowerHead (before : Text) (c : Char) (s : Text) : Text :=
  if c = 'Σ' then [lowerSigma before s] else lowerChar c

lemma lowerAfter_cons (before : Text) (c : Char) (s : Text) :
    lowerAfter before (c :: s) = lowerHead before c s ++ lowerAfter (c :: before) s := rfl

lemma lowered_of_mem_lowerHead {d : Char} (hd : d ∈ lowerHead before c s) :
    Lowered d ∧ (d = c ∨ isBlank d = false) := by
  rw [lowerHead] at hd
  split at hd
  case isTrue =>
    have hsigmas : ∀ d ∈ ['ς', 'σ'], Lowered d ∧ isBlank d = false :=
      List.all_iff_forall_prop.mp (by decide)
    have hd' : d ∈ ['ς', 'σ'] := by
      rw [List.mem_singleton.mp hd, lowerSigma]
      split <;> simp
    exact (hsigmas d hd').imp_right Or.inr
  case isFalse hc => exact lowered_of_mem_lowerChar hc hd

lemma lowerHead_ne_nil (before : Text) (c : Char) (s : Text) : lowerHead before c s ≠ [] := by
  rw [lowerHead, lowerChar]
  split
  · simp
  · split <;> simp

lemma lowered_of_mem_lowerAfter (h : c ∈ lowerAfter before s) : Lowered c := by
  induction s generalizing before with
  | nil => simp [lowerAfter] at h
  | cons a s ih =>
      rw [lowerAfter_cons, List.mem_append] at h
      rcases h with h | h
      · exact (lowered_of_mem_lowerHead h).1
      · exact ih h

/-- A text in lower case consists of characters in lower case. -/
lemma lowered_of_mem_lower (h : c ∈ lower s) : Lowered c := lowered_of_mem_lowerAfter h

lemma lowerAfter_eq_self (h : ∀ c ∈ s, Lowered c) (before : Text) : lowerAfter before s = s := by
  induction s generalizing before with
  | nil => rfl
  | cons a s ih =>
      obtain ⟨hsigma, hlower⟩ := h a (by simp)
      rw [lowerAfter_cons, ih fun c hc => h c (List.mem_cons_of_mem _ hc), lowerHead,
        if_neg hsigma, hlower]
      rfl

/-- A text of characters in lower case stays as it is. -/
lemma lower_eq_self (h : ∀ c ∈ s, Lowered c) : lower s = s := lowerAfter_eq_self h []

/-! ### Blanks -/

/-- What stands for the last character of a text stands at the end of the lowered text. -/
lemma exists_lowerAfter_concat (before s : Text) (c : Char) :
    ∃ front after, lowerAfter before (s ++ [c]) = front ++ lowerHead after c [] := by
  induction s generalizing before with
  | nil => exact ⟨[], before, by rw [List.nil_append, lowerAfter_cons]; simp [lowerAfter]⟩
  | cons a s ih =>
      obtain ⟨front, after, hlower⟩ := ih (a :: before)
      refine ⟨lowerHead before a (s ++ [c]) ++ front, after, ?_⟩
      rw [List.cons_append, lowerAfter_cons, hlower, List.append_assoc]

/-- Lowering puts no blank into a text. -/
lemma isBlank_eq_false_of_mem_lower (h : ∀ c ∈ s, isBlank c = false) {d : Char}
    (hd : d ∈ lower s) : isBlank d = false := by
  rw [lower] at hd
  generalize [] = before at hd
  induction s generalizing before with
  | nil => cases hd
  | cons c s ih =>
      rw [List.forall_mem_cons] at h
      rw [lowerAfter_cons, List.mem_append] at hd
      rcases hd with hd | hd
      · rcases (lowered_of_mem_lowerHead hd).2 with rfl | hblank
        · exact h.1
        · exact hblank
      · exact ih h.2 _ hd

/-- Lowering puts no blank at the ends of a text. -/
lemma tight_lower (h : Tight s) : Tight (lower s) where
  head := by
    intro d hd
    cases s with
    | nil => simp [lower, lowerAfter] at hd
    | cons c s =>
        rw [lower, lowerAfter_cons, List.head?_append_of_ne_nil _ (lowerHead_ne_nil _ _ _)] at hd
        rcases (lowered_of_mem_lowerHead (List.mem_of_mem_head? hd)).2 with rfl | hblank
        · exact h.head d rfl
        · exact hblank
  last := by
    intro d hd
    rcases List.eq_nil_or_concat s with rfl | ⟨s, c, rfl⟩
    · simp [lower, lowerAfter] at hd
    · obtain ⟨front, after, hlower⟩ := exists_lowerAfter_concat [] s c
      rw [List.concat_eq_append] at hd h
      rw [lower, hlower, List.getLast?_append_of_ne_nil _ (lowerHead_ne_nil _ _ _)] at hd
      rcases (lowered_of_mem_lowerHead (List.mem_of_getLast? hd)).2 with rfl | hblank
      · exact h.last d (by simp)
      · exact hblank

end Text

end Grading
