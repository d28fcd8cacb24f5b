/-
How amounts of points are shown.

* `DropsZero`, `wellFounded_dropsZero`: one round of trimming, and that there are no endless rounds;
* `TrimsTo`, `trimsTo_iff`: the one text that the rounds lead to, which an amount is shown as;
* `Numeral.DropsZeros`: a numeral with fewer zeros at its end, which writes the same number;
* `Numeral.exists_of_round`, `Numeral.exists_of_run`: a round leads to such a numeral, and so do any
  rounds in a row;
* `trimmedPlaces_of_stops`: when no round is left, there are one or two places, the second not zero;
* `Numeral.number_neg_iff`: which numerals write numbers below zero;
* `hundredths`, `exists_points_eq_render`: the numeral that a finite amount is shown as;
* `points_of_not_isFinite`: the word that another one is shown as;
* `points_only_trims`: all this together.
-/
import Grading.Proofs.Number.Fixed
import Mathlib.Logic.Relation

namespace Grading

open Binary64 (nearestEven signed value)
open Decimal (fixed isDigit isDigits_iff)
open Relation (ReflTransGen)

variable {s t u : Text} {n m : Numeral} {x : Float}

/-! ### Rounds of trimming -/

/-- One round of trimming: a zero at the end is dropped, unless it follows the point. -/
structure DropsZero (s t : Text) : Prop where
  /-- A zero is dropped. -/
  eq : s = t ++ ['0']
  /-- It does not follow the point. -/
  getLast?_ne : t.getLast? ≠ some '.'

lemma DropsZero.length_lt (h : DropsZero s t) : t.length < s.length := by
  rw [h.eq, List.length_append, List.length_singleton]
  exact Nat.lt_succ_self _

/-- No text is trimmed for ever. -/
lemma wellFounded_dropsZero : WellFounded fun t s => DropsZero s t :=
  Subrelation.wf (fun h => h.length_lt) (measure List.length).wf

lemma rightUnique_dropsZero : Relator.RightUnique DropsZero := fun _ _ _ ht hu =>
  List.append_cancel_right (ht.eq.symm.trans hu.eq)

lemma not_dropsZero_of_getLast? (h : s.getLast? ≠ some '0') (t : Text) : ¬ DropsZero s t := by
  intro hdrop
  rw [hdrop.eq, List.getLast?_concat] at h
  exact h rfl

/-- Whether a text is trimmed to another one, in rounds until none is left. -/
structure TrimsTo (s t : Text) : Prop where
  /-- The rounds lead to it. -/
  run : ReflTransGen DropsZero s t
  /-- None is left. -/
  stops : ∀ u, ¬ DropsZero t u

lemma eq_of_stops (hstops : ∀ u, ¬ DropsZero s u) (hrun : ReflTransGen DropsZero s t) : s = t :=
  hrun.cases_head.resolve_right fun ⟨u, hu, _⟩ => hstops u hu

/-- There is one text that a text is trimmed to. -/
lemma TrimsTo.unique (ht : TrimsTo s t) (hu : TrimsTo s u) : t = u := by
  rcases ht.run.total_of_right_unique rightUnique_dropsZero hu.run with hrun | hrun
  · exact eq_of_stops ht.stops hrun
  · exact (eq_of_stops hu.stops hrun).symm

/-- Dropping zeros least place first takes the same rounds. -/
lemma trimsTo_dropZerosUp (s : Text) : TrimsTo s.reverse (dropZerosUp s).reverse := by
  induction s using dropZerosUp.induct with
  | case1 s =>
      -- the zero follows the point and stays
      rw [dropZerosUp]
      refine ⟨.refl, fun t h => h.getLast?_ne ?_⟩
      have ht : t = s.reverse ++ ['.'] := by
        refine List.append_cancel_right (h.eq.symm.trans ?_)
        rw [List.reverse_cons, List.reverse_cons]
      rw [ht, List.getLast?_concat]
  | case2 s hpoint ih =>
      rw [dropZerosUp]
      · refine ⟨ih.run.head ⟨List.reverse_cons, ?_⟩, ih.stops⟩
        rw [List.getLast?_reverse]
        intro hhead
        obtain ⟨rest, rfl⟩ := List.head?_eq_some_iff.mp hhead
        exact hpoint rest rfl
      · exact hpoint
  | case3 s hpoint hzero =>
      rw [dropZerosUp]
      · refine ⟨.refl, fun t h => hzero t.reverse ?_⟩
        rw [← List.reverse_reverse s, h.eq, List.reverse_append, List.reverse_singleton,
          List.singleton_append]
      · exact hpoint
      · exact hzero

lemma trimsTo_iff : TrimsTo s t ↔ (dropZerosUp s.reverse).reverse = t := by
  have htrims := trimsTo_dropZerosUp s.reverse
  rw [List.reverse_reverse] at htrims
  constructor
  · exact htrims.unique
  · rintro rfl
    exact htrims

/-- An amount is shown as what its two places are trimmed to, but without the sign of a zero. -/
lemma points_eq (h : TrimsTo (fixed 2 x) t) :
    points x = if t = "-0.0".toList then "0.0".toList else t := by
  rw [← trimsTo_iff.mp h]
  rfl

/-! ### Zeros at the end of a numeral -/

namespace Numeral

/-- What stands in front of the point of a numeral. -/
def front (n : Numeral) : Text := (if n.negative then ['-'] else []) ++ n.whole

lemma render_of_places (h : n.fraction ≠ []) : n.render = n.front ++ '.' :: n.fraction := by
  rw [render, unsigned, if_neg h, front]
  cases n.negative <;> rfl

/-- Whether a numeral is another one without some zeros at its end, but with one place at least. -/
structure DropsZeros (n m : Numeral) : Prop where
  negative : m.negative = n.negative
  whole : m.whole = n.whole
  places : m.fraction ≠ []
  zeros : ∃ k, n.fraction = m.fraction ++ List.replicate k '0'

namespace DropsZeros

lemma refl (h : n.fraction ≠ []) : n.DropsZeros n :=
  ⟨rfl, rfl, h, 0, (List.append_nil _).symm⟩

lemma trans {l : Numeral} (h : n.DropsZeros m) (h' : m.DropsZeros l) : n.DropsZeros l := by
  obtain ⟨k, hk⟩ := h.zeros
  obtain ⟨k', hk'⟩ := h'.zeros
  refine ⟨h'.negative.trans h.negative, h'.whole.trans h.whole, h'.places, k' + k, ?_⟩
  rw [hk, hk', List.append_assoc, List.replicate_append_replicate]

lemma length_le (h : n.DropsZeros m) : m.fraction.length ≤ n.fraction.length := by
  obtain ⟨k, hk⟩ := h.zeros
  rw [hk, List.length_append]
  exact Nat.le_add_right _ _

lemma proper (h : n.DropsZeros m) (hn : n.Proper) : m.Proper := by
  obtain ⟨k, hk⟩ := h.zeros
  refine ⟨h.whole ▸ hn.whole, Or.inr (isDigits_iff.mpr ⟨h.places, fun c hc => ?_⟩)⟩
  have hmem : c ∈ n.fraction := hk ▸ List.mem_append_left _ hc
  rcases hn.fraction with hnil | hdigits
  · rw [hnil] at hmem
    exact absurd hmem List.not_mem_nil
  · exact (isDigits_iff.mp hdigits).2 c hmem

/-- Without zeros at its end, a numeral writes the same number. -/
lemma number_eq (h : n.DropsZeros m) : m.number = n.number := by
  obtain ⟨k, hk⟩ := h.zeros
  have hten : (10 : ℚ) ^ k * 10 ^ (-((m.fraction.length + k : ℕ) : ℤ))
      = 10 ^ (-(m.fraction.length : ℤ)) := by
    rw [← zpow_natCast, Binary64.ten_zpow_mul]
    congr 1
    omega
  rw [number, number, h.negative, h.whole, hk, ← List.append_assoc, Decimal.value_append_zeros,
    List.length_append, List.length_replicate, Nat.cast_mul, Nat.cast_pow, mul_assoc,
    Nat.cast_ofNat, hten]

end DropsZeros

/-- A round of trimming leads to the numeral with one zero less. -/
lemma exists_of_round (hplaces : n.fraction ≠ []) (h : DropsZero n.render t) :
    ∃ m : Numeral, m.render = t ∧ n.DropsZeros m := by
  obtain ⟨places, c, hfraction⟩ := (List.eq_nil_or_concat' n.fraction).resolve_left hplaces
  have heq : (n.front ++ '.' :: places) ++ [c] = t ++ ['0'] := by
    rw [← h.eq, render_of_places hplaces, hfraction, List.append_assoc, List.cons_append]
  obtain ⟨rfl, hzero⟩ := List.append_inj' heq rfl
  -- the zero does not follow the point, so that a place is left
  have hne : places ≠ [] := by
    rintro rfl
    exact h.getLast?_ne (List.getLast?_concat ..)
  refine ⟨{ n with fraction := places }, render_of_places hne, rfl, rfl, hne, 1, ?_⟩
  rw [hfraction, hzero]
  rfl

/-- So a whole run leads to the numeral with fewer zeros. -/
lemma exists_of_run (hplaces : n.fraction ≠ []) (h : ReflTransGen DropsZero n.render t) :
    ∃ m : Numeral, m.render = t ∧ n.DropsZeros m := by
  induction h with
  | refl => exact ⟨n, rfl, .refl hplaces⟩
  | tail _ hround ih =>
      obtain ⟨m, rfl, hm⟩ := ih
      obtain ⟨l, rfl, hl⟩ := exists_of_round hm.places hround
      exact ⟨l, rfl, hm.trans hl⟩

end Numeral

/-! ### When no round is left -/

/-- One or two digits, the second of which is not zero. -/
inductive TrimmedPlaces : Text → Prop
  | one {d : Char} (hd : isDigit d = true) : TrimmedPlaces [d]
  | two {d e : Char} (hd : isDigit d = true) (he : isDigit e = true) (hne : e ≠ '0') :
      TrimmedPlaces [d, e]

lemma TrimmedPlaces.ne_nil (h : TrimmedPlaces s) : s ≠ [] := by
  cases h <;> exact List.cons_ne_nil _ _

/-- When no round is left, of two places the second is not zero. -/
lemma trimmedPlaces_of_stops (hn : n.Proper) (hplaces : n.fraction ≠ [])
    (hlength : n.fraction.length ≤ 2) (hstops : ∀ t, ¬ DropsZero n.render t) :
    TrimmedPlaces n.fraction := by
  have hdigits := (isDigits_iff.mp (hn.fraction.resolve_left hplaces)).2
  rw [Numeral.render_of_places hplaces] at hstops
  match hfraction : n.fraction with
  | [] => exact absurd hfraction hplaces
  | [d] =>
      rw [hfraction] at hdigits
      exact .one (hdigits d (by simp))
  | [d, e] =>
      rw [hfraction] at hdigits hstops
      have hd := hdigits d (by simp)
      refine .two hd (hdigits e (by simp)) ?_
      rintro rfl
      refine hstops (n.front ++ ['.'] ++ [d]) ⟨by simp, ?_⟩
      rw [List.getLast?_concat]
      intro hpoint
      rw [Option.some.inj hpoint] at hd
      exact absurd hd (by decide)
  | _ :: _ :: _ :: _ =>
      rw [hfraction] at hlength
      simp at hlength

/-- A numeral with two places is trimmed to one that writes the same number, with one or two
places. -/
lemma Numeral.Proper.exists_trimsTo (hn : n.Proper) (hlength : n.fraction.length = 2) :
    ∃ m : Numeral, TrimsTo n.render m.render ∧ m.Proper ∧ m.number = n.number
      ∧ TrimmedPlaces m.fraction := by
  have htrims : TrimsTo n.render (dropZerosUp n.render.reverse).reverse := trimsTo_iff.mpr rfl
  have hplaces : n.fraction ≠ [] := List.ne_nil_of_length_pos (hlength ▸ two_pos)
  obtain ⟨m, hm, hdrops⟩ := Numeral.exists_of_run hplaces htrims.run
  rw [← hm] at htrims
  have hproper := hdrops.proper hn
  exact ⟨m, htrims, hproper, hdrops.number_eq, trimmedPlaces_of_stops hproper hdrops.places
    (hdrops.length_le.trans hlength.le) htrims.stops⟩

/-! ### Signs -/

lemma Numeral.Proper.head?_render (h : n.Proper) :
    n.render.head? = some '-' ↔ n.negative = true := by
  rw [Numeral.render]
  cases n.negative with
  | true => exact iff_of_true rfl rfl
  | false => exact iff_of_false h.head?_unsigned Bool.false_ne_true

/-- A numeral writes a number below zero exactly if it has a sign and does not write zero. -/
lemma Numeral.number_neg_iff : n.number < 0 ↔ n.negative = true ∧ n.number ≠ 0 := by
  have hsize : (0 : ℚ) ≤ Decimal.value (n.whole ++ n.fraction)
      * 10 ^ (-(n.fraction.length : ℤ)) :=
    mul_nonneg (Nat.cast_nonneg _) (Decimal.ten_zpow_pos _).le
  rw [Numeral.number]
  cases n.negative with
  | true =>
      rw [if_pos rfl, signed, neg_ne_zero, neg_lt_zero, lt_iff_le_and_ne]
      exact ⟨fun h => ⟨rfl, h.2.symm⟩, fun h => ⟨hsize, h.2.symm⟩⟩
  | false => exact iff_of_false hsize.not_gt fun h => Bool.false_ne_true h.1

/-- With a sign, zero is still zero. -/
lemma writes_negative_zero : Writes "-0.0".toList 0 :=
  ⟨.ofDecimal true 0 1, Numeral.proper_ofDecimal _ _ _, by rw [Numeral.ofDecimal_zero]; rfl,
    Numeral.number_ofDecimal_zero _ _⟩

/-! ### Amounts -/

/-- An amount rounded to hundredths: the nearest number of them, of two equally near ones the even
one. -/
def hundredths (x : Float) : ℚ := nearestEven (value x * 10 ^ 2) / 10 ^ 2

/-- A finite amount is shown as a numeral with one or two places, which writes the hundredths that
are nearest to it and has no sign if these are none. -/
lemma exists_points_eq_render (hx : x.isFinite = true) :
    ∃ m : Numeral, m.Proper ∧ points x = m.render ∧ TrimmedPlaces m.fraction
      ∧ m.number = hundredths x ∧ (m.negative = true → m.number ≠ 0) := by
  obtain ⟨negative, units, hfixed, hnumber⟩ := exists_fixed_eq_render hx two_pos
  rcases eq_or_ne units 0 with rfl | hunits
  · -- zero is shown without the sign that its two places may have
    refine ⟨.ofDecimal false 0 1, Numeral.proper_ofDecimal _ _ _, ?_, ?_, ?_,
      fun h => absurd h Bool.false_ne_true⟩
    · rw [points, hfixed, Numeral.ofDecimal_zero, Numeral.ofDecimal_zero]
      cases negative <;> decide
    · rw [Numeral.ofDecimal_zero]
      exact .one (by decide)
    · rw [hundredths, ← hnumber, Numeral.number_ofDecimal_zero, Numeral.number_ofDecimal_zero]
  · -- what is trimmed is not zero, so that its sign is right
    obtain ⟨m, htrims, hm, hequal, hplaces⟩ :=
      (Numeral.proper_ofDecimal negative units 2).exists_trimsTo
        (Numeral.length_fraction_ofDecimal _ _ _)
    have hne : m.number ≠ 0 := hequal ▸ Numeral.number_ofDecimal_ne_zero negative hunits 2
    have hsigned : m.render ≠ "-0.0".toList := fun hzero =>
      hne (hm.writes.unique (hzero ▸ writes_negative_zero))
    refine ⟨m, hm, ?_, hplaces, hequal.trans hnumber, fun _ => hne⟩
    rw [points_eq (hfixed ▸ htrims), if_neg hsigned]

/-- So the number that is shown is the rounded one. -/
lemma writes_points (hx : x.isFinite = true) : Writes (points x) (hundredths x) := by
  obtain ⟨m, hm, hpoints, -, hnumber, -⟩ := exists_points_eq_render hx
  rw [hpoints, ← hnumber]
  exact hm.writes

/-- A finite amount is shown with a sign exactly if what is shown is below zero. -/
lemma head?_points (hx : x.isFinite = true) : (points x).head? = some '-' ↔ hundredths x < 0 := by
  obtain ⟨m, hm, hpoints, -, hnumber, hzero⟩ := exists_points_eq_render hx
  rw [hpoints, hm.head?_render, ← hnumber, Numeral.number_neg_iff]
  exact ⟨fun hnegative => ⟨hnegative, hzero hnegative⟩, And.left⟩

/-- So zero is shown without a sign. -/
lemma points_ne_negative_zero (hx : x.isFinite = true) : points x ≠ "-0.0".toList := by
  intro hzero
  have hsign := head?_points hx
  have hwrites := writes_points hx
  rw [hzero] at hsign hwrites
  exact (hsign.mp rfl).ne (hwrites.unique writes_negative_zero)

/-- The places of a finite amount are those that are left by trimming. -/
lemma exists_points_eq_append (hx : x.isFinite = true) :
    ∃ front places, points x = front ++ '.' :: places ∧ TrimmedPlaces places := by
  obtain ⟨m, -, hpoints, hplaces, -, -⟩ := exists_points_eq_render hx
  refine ⟨m.front, m.fraction, ?_, hplaces⟩
  rw [hpoints, Numeral.render_of_places hplaces.ne_nil]

/-- What is not finite is shown as a word. -/
lemma fixed_of_not_isFinite (hx : x.isFinite = false) (places : ℕ) :
    fixed places x ∈ ["NaN".toList, "inf".toList, "-inf".toList] := by
  change x.toModel.unpack.isFinite = false at hx
  rw [fixed]
  cases hu : x.toModel.unpack with
  | notANumber => simp
  | infinity s => cases s <;> simp [Decimal.signText]
  | zero s => rw [hu] at hx; cases hx
  | finite s m e hm => rw [hu] at hx; cases hx

/-- The words end in no zero, so that no round trims them. -/
lemma not_dropsZero_of_not_isFinite (hx : x.isFinite = false) (places : ℕ) (t : Text) :
    ¬ DropsZero (fixed places x) t := by
  have hwords : ∀ s ∈ ["NaN".toList, "inf".toList, "-inf".toList], s.getLast? ≠ some '0' := by
    decide
  exact not_dropsZero_of_getLast? (hwords _ (fixed_of_not_isFinite hx places)) t

/-- So they are shown as they are. -/
lemma points_of_not_isFinite (hx : x.isFinite = false) : points x = fixed 2 x := by
  have hword : fixed 2 x ≠ "-0.0".toList := by
    intro hzero
    exact absurd (hzero ▸ fixed_of_not_isFinite hx 2) (by decide)
  rw [points_eq ⟨.refl, not_dropsZero_of_not_isFinite hx 2⟩, if_neg hword]

/-- **Amounts of points are only trimmed**: no text is trimmed for ever. There is one text that the
two places of an amount are trimmed to, and the amount is shown as that, a zero without its sign. If
it is finite, what is shown writes the same number as the two places, the hundredths nearest to the
amount. It ends in the point and one or two digits, the second of which is not zero; it is never a
zero with a sign, and has a sign exactly if the number is below zero. If it is not finite, the word
for it is shown, which no round trims. -/
theorem points_only_trims (x : Float) :
    (WellFounded fun t s => DropsZero s t)
      ∧ (∃ t, (∀ u, TrimsTo (fixed 2 x) u ↔ u = t)
          ∧ points x = if t = "-0.0".toList then "0.0".toList else t)
      ∧ (x.isFinite = true →
          Writes (fixed 2 x) (hundredths x) ∧ Writes (points x) (hundredths x)
            ∧ (∃ front places, points x = front ++ '.' :: places ∧ TrimmedPlaces places)
            ∧ points x ≠ "-0.0".toList ∧ ((points x).head? = some '-' ↔ hundredths x < 0))
      ∧ (x.isFinite = false →
          fixed 2 x ∈ ["NaN".toList, "inf".toList, "-inf".toList] ∧ points x = fixed 2 x
            ∧ ∀ t, ¬ DropsZero (fixed 2 x) t) := by
  refine ⟨wellFounded_dropsZero, ⟨(dropZerosUp (fixed 2 x).reverse).reverse, fun u => ?_, rfl⟩,
    fun hx => ?_, fun hx => ?_⟩
  · rw [trimsTo_iff, eq_comm]
  · exact ⟨writes_fixed hx two_pos, writes_points hx, exists_points_eq_append hx,
      points_ne_negative_zero hx, head?_points hx⟩
  · exact ⟨fixed_of_not_isFinite hx 2, points_of_not_isFinite hx,
      not_dropsZero_of_not_isFinite hx 2⟩

/-- A small amount below zero, which is shown without its sign, and an endless one. -/
theorem points_only_trims_below_zero :
    let x : Float := -0.004
    x.isFinite = true ∧ fixed 2 x = "-0.00".toList ∧ points x = "0.0".toList
      ∧ (∃ q, Writes "-0.00".toList q ∧ Writes "0.0".toList q ∧ ¬ q < 0)
      ∧ (1 / 0 : Float).isFinite = false ∧ points (1 / 0) = "inf".toList := by
  intro x
  have hx : x.isFinite = true := by decide +kernel
  have hfixed : fixed 2 x = "-0.00".toList := by decide +kernel
  have hpoints : points x = "0.0".toList := by decide +kernel
  have hendless : (1 / 0 : Float).isFinite = false := by decide +kernel
  obtain ⟨-, -, hfinite, -⟩ := points_only_trims x
  obtain ⟨htwo, hshown, -, -, hsign⟩ := hfinite hx
  obtain ⟨-, -, -, hword⟩ := points_only_trims (1 / 0)
  rw [hfixed] at htwo
  rw [hpoints] at hshown hsign
  refine ⟨hx, hfixed, hpoints, ⟨hundredths x, htwo, hshown, fun hneg => ?_⟩, hendless, ?_⟩
  · exact absurd (hsign.mpr hneg) (by decide)
  · rw [(hword hendless).2.1]
    decide +kernel

end Grading
