/-
Whether an alternative accepts any answer at all. What accepts none is still read from a key line
without complaint.

* `isFinite_add_slack`, `isFinite_sub_slack`, `Alternative.admits_iff`: which distances are admitted
  by finite bounds;
* `Alternative.exists_accepts_text`, `Alternative.exists_accepts_number`: a text is accepted as
  itself, and for a number some answer is accepted exactly if some finite number is at an admitted
  distance from it;
* `Alternative.Satisfiable`: whether some distance is admitted, `Alternative.Resolves`: whether the
  admitted distances are far enough apart for the numbers around the value;
* `exists_accepts_iff`: both together are enough, and the first is needed;
* `ofLine_rangeTag`: any two numbers are read as the bounds of a range, `rejects_unsatisfiable`:
  also if no distance satisfies them, and then no answer is accepted.
-/
import Grading.Proofs.Answer.Swapped
import Grading.Proofs.Answer.Values
import Grading.Proofs.Float.Grid
import Grading.Proofs.Float.Nearest
import Grading.Proofs.Problem.Tags

namespace Grading

open Binary64 (gridExponent greatest limit)

variable {rules : Rules} {a : Alternative} {p : Problem} {raw s low high value : Text}
  {c : Char} {d v x y : Float}

/-! ### Bounds -/

lemma isFinite_slack : slack.isFinite = true := by decide +kernel

/-- A finite bound with the slack is finite. -/
lemma isFinite_add_slack (hx : x.isFinite = true) : (x + slack).isFinite = true := by
  have hgreatest : greatest.isFinite = true := by decide +kernel
  have hsum : (greatest + slack).isFinite = true := by decide +kernel
  have hslack : 0 ≤ Binary64.value slack := by decide +kernel
  rw [(Binary64.rounds_add hgreatest isFinite_slack).isFinite_iff] at hsum
  rw [(Binary64.rounds_add hx isFinite_slack).isFinite_iff]
  refine (Binary64.abs_rounded_le ?_).trans_lt hsum
  calc |Binary64.value x + Binary64.value slack|
      ≤ |Binary64.value x| + |Binary64.value slack| := abs_add_le _ _
    _ ≤ Binary64.value greatest + Binary64.value slack :=
      add_le_add (Binary64.abs_value_le_greatest hx) (abs_of_nonneg hslack).le
    _ ≤ |Binary64.value greatest + Binary64.value slack| := le_abs_self _

/-- So is one without it. -/
lemma isFinite_sub_slack (hx : x.isFinite = true) : (x - slack).isFinite = true := by
  have hneg : (-x).isFinite = true := (Binary64.isFinite_neg x).trans hx
  have hsum := isFinite_add_slack hneg
  rw [(Binary64.rounds_add hneg isFinite_slack).isFinite_iff, Binary64.value_neg] at hsum
  rw [(Binary64.rounds_sub hx isFinite_slack).isFinite_iff, ← abs_neg, ← Binary64.rounded_neg]
  rwa [neg_sub', sub_neg_eq_add]

namespace Alternative

/-- Whether the distances that are told are finite. -/
structure FiniteBounds (a : Alternative) : Prop where
  low : a.low.isFinite = true
  high : a.high.isFinite = true

/-- The least distance that is admitted. -/
def lowest (a : Alternative) : ℚ := Binary64.value (a.low - slack)

/-- The greatest distance that is admitted. -/
def highest (a : Alternative) : ℚ := Binary64.value (a.high + slack)

/-- With finite bounds, the distances that are admitted are the finite ones between them. -/
lemma admits_iff (h : a.FiniteBounds) :
    a.admits d = true
      ↔ d.isFinite = true ∧ a.lowest ≤ Binary64.value d ∧ Binary64.value d ≤ a.highest := by
  have hlow := isFinite_sub_slack h.low
  have hhigh := isFinite_add_slack h.high
  rw [admits, Bool.and_eq_true, decide_eq_true_eq, decide_eq_true_eq]
  constructor
  · rintro ⟨hlow', hhigh'⟩
    have hd := Binary64.isFinite_of_le_of_le hlow hhigh hlow' hhigh'
    exact ⟨hd, (Binary64.le_iff_value_le hlow hd).mp hlow',
      (Binary64.le_iff_value_le hd hhigh).mp hhigh'⟩
  · rintro ⟨hd, hlow', hhigh'⟩
    exact ⟨(Binary64.le_iff_value_le hlow hd).mpr hlow',
      (Binary64.le_iff_value_le hd hhigh).mpr hhigh'⟩

/-- Whether the upper bound, with the slack, is neither negative nor less than the lower one. -/
def Satisfiable (a : Alternative) : Prop :=
  0 ≤ a.high + slack ∧ a.low - slack ≤ a.high + slack

instance (a : Alternative) : Decidable a.Satisfiable := inferInstanceAs (Decidable (_ ∧ _))

lemma satisfiable_iff_value (h : a.FiniteBounds) :
    a.Satisfiable ↔ 0 ≤ a.highest ∧ a.lowest ≤ a.highest := by
  have hhigh := isFinite_add_slack h.high
  rw [Satisfiable, Binary64.le_iff_value_le (by decide) hhigh,
    Binary64.le_iff_value_le (isFinite_sub_slack h.low) hhigh, Binary64.value_zero, lowest, highest]

/-- This is when some distance is admitted. -/
lemma satisfiable_iff (h : a.FiniteBounds) :
    a.Satisfiable ↔ ∃ d : Float, 0 ≤ d ∧ a.admits d = true := by
  have hzero : (0 : Float).isFinite = true := by decide
  rw [satisfiable_iff_value h]
  constructor
  · rintro ⟨hpos, hle⟩
    have hhigh := isFinite_add_slack h.high
    refine ⟨a.high + slack, (Binary64.le_iff_value_le hzero hhigh).mpr ?_,
      (admits_iff h).mpr ⟨hhigh, hle, le_rfl⟩⟩
    rwa [Binary64.value_zero]
  · rintro ⟨d, hpos, hadmits⟩
    obtain ⟨hd, hlow, hhigh⟩ := (admits_iff h).mp hadmits
    rw [Binary64.le_iff_value_le hzero hd, Binary64.value_zero] at hpos
    exact ⟨hpos.trans hhigh, hlow.trans hhigh⟩

end Alternative

/-! ### Some answer -/

/-- The characters of a numeral, in lower case and without blanks. -/
lemma lowered_of_readNumber? (h : readNumber? s = some x) :
    ∀ c ∈ s, Text.Lowered c ∧ Text.isBlank c = false := by
  intro c hc
  refine lowered_of_number ?_
  rcases mem_of_readNumber? h hc with hdigit | rfl | rfl
  · exact Or.inl hdigit
  · exact Or.inr (Or.inl (by decide))
  · exact Or.inr (Or.inl (by decide))

/-- A numeral is its own normal form. -/
lemma normalize_of_readNumber? (rules : Rules) (h : readNumber? s = some x) :
    (normalize rules s).text = s := by
  have hslash : '/' ∉ s := notMem_of_readNumber? h (by decide) (by decide)
  rw [normalize, foldCase_of_forall (lowered_of_readNumber? h),
    convertFraction_of_eq_none (fractionParts?_eq_none hslash)]

/-- No list matches a number. -/
lemma matchLists_eq_false_of_readNumber? (h : readNumber? s = some x) (answer : Text) :
    rules.matchLists answer s = false := by
  rw [← Bool.not_eq_true]
  intro hlists
  simp only [Rules.matchLists, listsMatch, Bool.and_eq_true, beq_iff_eq, List.contains_iff_mem]
    at hlists
  obtain ⟨⟨-, hcomma⟩, hlength, -⟩ := hlists
  rw [comma_mem_iff, hlength, ← comma_mem_iff] at hcomma
  exact notMem_of_readNumber? h (by decide) (by decide) hcomma

namespace Alternative

/-- A text that is no number is accepted as itself. -/
lemma exists_accepts_text (h : readNumber? (normalize rules a.value).text = none) :
    ∃ raw, a.accepts rules raw = true :=
  ⟨a.value, isSome_match?_iff.mpr (Or.inr ⟨Or.inl h, Or.inl rfl⟩)⟩

/-- For a number, some answer is accepted exactly if some finite number is at an admitted
distance. -/
lemma exists_accepts_number (h : a.FiniteBounds)
    (hv : readNumber? (normalize rules a.value).text = some v) :
    (∃ raw, a.accepts rules raw = true)
      ↔ ∃ x : Float, x.isFinite = true ∧ a.admits (x - v).abs = true := by
  constructor
  · rintro ⟨raw, haccepts⟩
    rcases isSome_match?_iff.mp haccepts with ⟨v', x, hv', -, hadmits⟩ | ⟨hnone, htexts⟩
    · obtain rfl : v = v' := Option.some.inj (hv.symm.trans hv')
      have hdistance := ((admits_iff h).mp hadmits).1
      rw [Binary64.isFinite_abs, Binary64.sub_eq_add] at hdistance
      exact ⟨x, (Binary64.isFinite_of_add hdistance).1, hadmits⟩
    · -- a text that is no number would have to be the number, or a list
      rw [matchLists_eq_false_of_readNumber? hv] at htexts
      have hsame := htexts.resolve_right Bool.false_ne_true
      rw [hsame, hv, or_self] at hnone
      cases hnone
  · rintro ⟨x, hx, hadmits⟩
    obtain ⟨s, y, hread, hyx⟩ := exists_readNumber? hx
    refine ⟨s, isSome_match?_iff.mpr (Or.inl ⟨v, y, hv, ?_, ?_⟩)⟩
    · rwa [normalize_of_readNumber? rules hread]
    · rwa [Decimal.abs_sub_congr hyx]

/-- Then the bounds can be satisfied. -/
lemma satisfiable_of_accepts (h : a.FiniteBounds)
    (hv : readNumber? (normalize rules a.value).text = some v)
    (haccepts : a.accepts rules raw = true) : a.Satisfiable := by
  obtain ⟨x, -, hadmits⟩ := (exists_accepts_number h hv).mp ⟨raw, haccepts⟩
  have hdistance := ((admits_iff h).mp hadmits).1
  refine (satisfiable_iff h).mpr ⟨(x - v).abs, ?_, hadmits⟩
  rw [Binary64.le_iff_value_le (by decide) hdistance, Binary64.value_zero, Binary64.value_abs]
  exact abs_nonneg _

/-! ### Some number -/

/-- Whether the admitted distances reach down to zero, or spread over a unit of the numbers that are
as far away as the value or the largest of them. -/
def Resolves (a : Alternative) (v : Float) : Prop :=
  a.lowest ≤ 0 ∨ 2 ^ gridExponent (max |Binary64.value v| a.highest) ≤ a.highest - a.lowest

instance (a : Alternative) (v : Float) : Decidable (a.Resolves v) :=
  inferInstanceAs (Decidable (_ ∨ _))

lemma value_lt_limit (hx : x.isFinite = true) : |Binary64.value x| < limit := by
  have hself := Binary64.rounds_value hx
  rw [hself.value_eq hx]
  exact hself.isFinite_iff.mp hx

/-- Rounding leaves a distance between the bounds. -/
lemma admits_of_between (h : a.FiniteBounds) (hx : x.isFinite = true) (hv : v.isFinite = true)
    (hlow : a.lowest ≤ |Binary64.value x - Binary64.value v|)
    (hhigh : |Binary64.value x - Binary64.value v| ≤ a.highest) :
    a.admits (x - v).abs = true := by
  have hdistance := (Binary64.rounds_sub hx hv).abs
  have hlow' := Binary64.rounds_value (isFinite_sub_slack h.low)
  have hhigh' := Binary64.rounds_value (isFinite_add_slack h.high)
  have hfinite : (x - v).abs.isFinite = true := by
    refine hdistance.isFinite_iff.mpr ?_
    refine lt_of_le_of_lt (Binary64.abs_rounded_le ?_)
      (hhigh'.isFinite_iff.mp (isFinite_add_slack h.high))
    rw [abs_abs]
    exact hhigh.trans (le_abs_self _)
  rw [admits_iff h, hdistance.value_eq hfinite, lowest, highest,
    hlow'.value_eq (isFinite_sub_slack h.low), hhigh'.value_eq (isFinite_add_slack h.high)]
  exact ⟨hfinite, Binary64.rounded_mono hlow, Binary64.rounded_mono hhigh⟩

/-- If some distance is admitted, and the admitted distances are not finer than numbers are, then
some number is at one of them. -/
lemma exists_admits (h : a.FiniteBounds) (hv : v.isFinite = true) (hsatisfiable : a.Satisfiable)
    (hresolves : a.Resolves v) : ∃ x : Float, x.isFinite = true ∧ a.admits (x - v).abs = true := by
  rw [satisfiable_iff_value h] at hsatisfiable
  rcases le_or_gt a.lowest 0 with hzero | hpos
  · refine ⟨v, hv, admits_of_between h hv hv ?_ ?_⟩ <;> rw [sub_self, abs_zero]
    · exact hzero
    · exact hsatisfiable.1
  · obtain ⟨n, hn, hfar, hnear⟩ := Binary64.exists_multiple_between (Binary64.two_zpow_pos _) hpos
      (hresolves.resolve_left hpos.not_ge) (Binary64.value v)
    have hlimit : max |Binary64.value v| a.highest < limit :=
      max_lt (value_lt_limit hv)
        ((le_abs_self _).trans_lt (value_lt_limit (isFinite_add_slack h.high)))
    obtain ⟨x, hx, hvalue⟩ := Binary64.exists_value_eq hlimit hn
    rw [← hvalue] at hfar hnear
    exact ⟨x, hx, admits_of_between h hx hv hfar hnear⟩

end Alternative

/-- **Which alternatives accept any answer**: one around a text does. One around a number does if
some finite number is at an admitted distance; for this some distance has to be admitted at all, so
the upper bound must neither be negative nor less than the lower one, and this is enough if the
admitted distances reach down to zero or are not finer than the numbers around the value. -/
theorem exists_accepts_iff (rules : Rules) (p : Problem) (a : Alternative) (h : a.FiniteBounds)
    (hvalue : ∀ v, readNumber? (normalize rules a.value).text = some v → v.isFinite = true) :
    ((∃ raw, (p.only a).Accepts rules raw)
        ↔ ∀ v, readNumber? (normalize rules a.value).text = some v →
            ∃ x : Float, x.isFinite = true ∧ a.admits (x - v).abs = true)
      ∧ (a.Satisfiable ↔ ∃ d : Float, 0 ≤ d ∧ a.admits d = true)
      ∧ ∀ v, readNumber? (normalize rules a.value).text = some v →
          ((∃ raw, (p.only a).Accepts rules raw) → a.Satisfiable)
          ∧ (a.Satisfiable → a.Resolves v → ∃ raw, (p.only a).Accepts rules raw) := by
  simp only [Problem.accepts_only_iff]
  refine ⟨⟨fun hraw v hv => (Alternative.exists_accepts_number h hv).mp hraw, fun hnumber => ?_⟩,
    Alternative.satisfiable_iff h, fun v hv => ⟨fun hraw => ?_, fun hsatisfiable hresolves => ?_⟩⟩
  · cases hv : readNumber? (normalize rules a.value).text with
    | none => exact Alternative.exists_accepts_text hv
    | some v => exact (Alternative.exists_accepts_number h hv).mpr (hnumber v hv)
  · obtain ⟨raw, haccepts⟩ := hraw
    exact Alternative.satisfiable_of_accepts h hv haccepts
  · exact (Alternative.exists_accepts_number h hv).mpr
      (Alternative.exists_admits h (hvalue v hv) hsatisfiable hresolves)

/-- A third, for which distances from a tenth to a fifth are admitted, and a number with a range
from three down to one. -/
theorem exists_accepts_third :
    let p : Problem := ⟨"1".toList, []⟩
    let a := Alternative.ofTags "1/3".toList [.range 0.1 0.2]
    let b := Alternative.ofTags "5".toList [.range 3 1]
    a.FiniteBounds ∧ b.FiniteBounds
      ∧ (∀ v, readNumber? (normalize {} a.value).text = some v → v.isFinite = true)
      ∧ (∀ v, readNumber? (normalize {} b.value).text = some v → v.isFinite = true)
      ∧ (∃ raw, (p.only a).Accepts {} raw) ∧ ¬ ∃ raw, (p.only b).Accepts {} raw := by
  intro p a b
  have ha : a.FiniteBounds := ⟨by decide +kernel, by decide +kernel⟩
  have hb : b.FiniteBounds := ⟨by decide +kernel, by decide +kernel⟩
  have hthird : readNumber? (normalize {} a.value).text = some 0.33 := by decide +kernel
  have hfive : readNumber? (normalize {} b.value).text = some 5 := by decide +kernel
  have hvalue : ∀ {s : Text} {x : Float}, readNumber? s = some x → x.isFinite = true →
      ∀ v, readNumber? s = some v → v.isFinite = true := by
    intro s x hs hx v hv
    rwa [← Option.some.inj (hs.symm.trans hv)]
  have hfinite := hvalue hthird (by decide +kernel)
  have hfinite' := hvalue hfive (by decide +kernel)
  obtain ⟨-, -, haccepts⟩ := exists_accepts_iff {} p a ha hfinite
  obtain ⟨-, -, hrejects⟩ := exists_accepts_iff {} p b hb hfinite'
  have hsatisfiable : a.Satisfiable := by decide +kernel
  have hresolves : a.Resolves 0.33 := by decide +kernel
  have hreversed : ¬ b.Satisfiable := by decide +kernel
  exact ⟨ha, hb, hfinite, hfinite', (haccepts _ hthird).2 hsatisfiable hresolves,
    fun hraw => hreversed ((hrejects _ hfive).1 hraw)⟩

/-! ### Reversed ranges -/

/-- The tag for the distances from one number to another. -/
def rangeTag (low high : Text) : Text :=
  Text.join [' '] ["range".toList, low, "to".toList, high]

/-- The words of such a tag are in lower case and hold nothing that divides a line. -/
lemma forall_words_rangeTag (hlow : readNumber? low = some x) (hhigh : readNumber? high = some y) :
    ∀ word ∈ ["range".toList, low, "to".toList, high], word ≠ []
      ∧ ∀ c ∈ word, (Text.Lowered c ∧ Text.isBlank c = false) ∧ c ∉ ['&', ';'] := by
  have hnumber : ∀ {s : Text} {v : Float}, readNumber? s = some v → s ≠ []
      ∧ ∀ c ∈ s, (Text.Lowered c ∧ Text.isBlank c = false) ∧ c ∉ ['&', ';'] := by
    intro s v h
    refine ⟨ne_nil_of_readNumber? h, fun c hc => ⟨lowered_of_readNumber? h c hc, fun hmark => ?_⟩⟩
    have hmarks : ∀ c ∈ ['&', ';'], Decimal.isDigit c = false ∧ c ∉ ['.', '-'] :=
      List.all_iff_forall_prop.mp (by decide)
    exact notMem_of_readNumber? h (hmarks c hmark).1 (hmarks c hmark).2 hc
  have hletters : ∀ c ∈ "range".toList ++ "to".toList,
      (Text.Lowered c ∧ Text.isBlank c = false) ∧ c ∉ ['&', ';'] :=
    List.all_iff_forall_prop.mp (by decide)
  simp only [List.forall_mem_cons]
  exact ⟨⟨by decide, fun c hc => hletters c (List.mem_append_left _ hc)⟩, hnumber hlow,
    ⟨by decide, fun c hc => hletters c (List.mem_append_right _ hc)⟩, hnumber hhigh,
    List.forall_mem_nil _⟩

/-- Any two numbers are read as the bounds of a range. -/
lemma ofText_rangeTag (hlow : readNumber? low = some x) (hhigh : readNumber? high = some y) :
    Tag.ofText (rangeTag low high) = .ok (.range x y) := by
  have hplain := forall_words_rangeTag hlow hhigh
  have hlowered : ∀ c ∈ rangeTag low high, Text.Lowered c := by
    intro c hc
    rcases Text.mem_join hc with hc | ⟨word, hword, hc⟩
    · rw [List.mem_singleton.mp hc]
      decide
    · exact ((hplain word hword).2 c hc).1.1
  have hwords : Text.words (' ' :: Text.join [' '] [low, "to".toList, high])
      = [low, "to".toList, high] := by
    rw [Text.words_blank_cons Text.isBlank_space, Text.words_join Text.isBlank_space]
    intro word hword
    have hword := hplain word (List.mem_cons_of_mem _ hword)
    exact ⟨hword.1, fun c hc => (hword.2 c hc).1.2⟩
  refine Tag.ofText_eq_ok_iff.mpr (.between ⟨[], _, ⟨?_, fun _ => Nat.zero_le _⟩, hwords⟩
    (readNumber?_eq_some_iff.mp hlow) (readNumber?_eq_some_iff.mp hhigh))
  rw [Text.lower_eq_self hlowered, rangeTag, Text.join_cons_cons, List.append_assoc]
  rfl

/-- The alternative of a line with one value and such a tag. -/
lemma ofLine_rangeTag (number : Text) (hvalue : Entry.Canonical ⟨value, []⟩)
    (hlow : readNumber? low = some x) (hhigh : readNumber? high = some y) :
    Problem.ofLine number (value ++ " ; ".toList ++ rangeTag low high)
      = .ok ⟨number, [.ofTags value [.range x y]]⟩ := by
  have hplain := forall_words_rangeTag hlow hhigh
  -- no mark of the line stands in the tag, which is therefore one piece
  have hfree : ∀ c ∈ ['&', ';'], c ∉ rangeTag low high := by
    intro c hmark hc
    rcases Text.mem_join hc with hc | ⟨word, hword, hc⟩
    · rw [List.mem_singleton.mp hc] at hmark
      exact absurd hmark (by decide)
    · exact ((hplain word hword).2 c hc).2 hmark
  have htight : (rangeTag low high).Tight := Text.tight_join fun word hword =>
    ⟨(hplain word hword).1,
      Text.tight_of_forall_not_blank fun c hc => ((hplain word hword).2 c hc).1.2⟩
  have hne : rangeTag low high ≠ [] := by
    rw [rangeTag, Text.join_cons_cons]
    simp
  refine ofLine_tagged number hvalue (hfree '&' (by decide)) ?_
  rw [Text.pieces_eq_singleton (hfree ';' (by decide)),
    trimmedParts_eq_self (List.forall_mem_singleton.mpr ⟨hne, htight⟩)]
  exact .cons (ofText_rangeTag hlow hhigh) .nil

/-- **Ranges that no distance satisfies** are read as any other, and then no answer is accepted. -/
lemma rejects_unsatisfiable (rules : Rules) (number : Text) (hvalue : Entry.Canonical ⟨value, []⟩)
    (hv : readNumber? (normalize rules value).text = some v)
    (hlow : readNumber? low = some x) (hhigh : readNumber? high = some y)
    (hx : x.isFinite = true) (hy : y.isFinite = true)
    (hnone : ¬ (Alternative.ofTags value [.range x y]).Satisfiable) :
    Problem.ofLine number (value ++ " ; ".toList ++ rangeTag low high)
        = .ok ⟨number, [.ofTags value [.range x y]]⟩
      ∧ ∀ raw, ¬ (Alternative.ofTags value [.range x y]).accepts rules raw = true :=
  ⟨ofLine_rangeTag number hvalue hlow hhigh,
    fun _ haccepts => hnone (Alternative.satisfiable_of_accepts ⟨hx, hy⟩ hv haccepts)⟩

/-- A range from three down to one. -/
theorem keeps_reversed_range :
    ∃ p a, Problem.ofLine "1".toList "5 ; range 3 to 1".toList = .ok p ∧ a ∈ p.alternatives
      ∧ readNumber? a.value = some 5 ∧ a.low = 3 ∧ a.high = 1
      ∧ ∀ raw, ¬ (p.only a).Accepts {} raw := by
  have hvalue : Entry.Canonical ⟨"5".toList, []⟩ :=
    have hmem : (⟨"5".toList, []⟩ : Entry) ∈ entries .asWritten "5".toList := by decide
    canonical_of_mem_entries_asWritten hmem
  have hv : readNumber? (normalize {} "5".toList).text = some 5 := by decide +kernel
  have hlow : readNumber? "3".toList = some 3 := by decide +kernel
  have hhigh : readNumber? "1".toList = some 1 := by decide +kernel
  have hnone : ¬ (Alternative.ofTags "5".toList [.range 3 1]).Satisfiable := by decide +kernel
  obtain ⟨hline, hrejects⟩ := rejects_unsatisfiable {} "1".toList hvalue hv hlow hhigh
    (by decide) (by decide) hnone
  refine ⟨_, _, hline, List.mem_singleton_self _, ?_, rfl, rfl, fun raw => ?_⟩
  · decide +kernel
  · rw [Problem.accepts_only_iff]
    exact hrejects raw

end Grading
