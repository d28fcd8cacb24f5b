/-
Lower case and blanks. Lowering goes part by part where a text is divided by characters such as
blanks and commas, and only the capital sigma looks at its neighbours at all. Taking the blanks out
of a text in lower case therefore leaves the text without blanks in lower case, except that a
capital sigma before a blank may have become the final form.

* `Divides`: a character that no word goes across; blanks and the comma are of this kind;
* `lower_append_cons`, `pieces_comma_lower`: lowering goes part by part;
* `squeeze_lower_trim`: blanks at the ends do not matter to it;
* `sigmaForms`, `lowerWith`: the forms that the capital sigmas of a text take in lower case, and
  lower case with given forms;
* `squeeze_lower`, `squeeze_lower_eq_iff`: without their blanks, texts that differ in blanks have
  the same lower case exactly if their capital sigmas take the same forms.
-/
import Grading.Proofs.Text.Lowered
import Grading.Proofs.Text.Pieces

namespace Grading

namespace Text

variable {c d : Char} {s t a b before forms forms' : Text}

/-! ### Characters that divide words -/

/-- A character that no word goes across: it has no case, is not looked through, and stays as it is
in lower case. -/
structure Divides (c : Char) : Prop where
  uncased : isCased c = false
  seen : isCaseIgnorable c = false
  lowered : Lowered c

lemma divides_comma : Divides ',' :=
  ⟨by decide +kernel, by decide +kernel, by decide +kernel⟩

/-- A character in one of some ranges is in none of others that are apart from them. -/
lemma inRanges_eq_false {ranges others : List (Nat × Nat)}
    (hapart : (ranges.all fun r => others.all fun q => Nat.blt r.2 q.1 || Nat.blt q.2 r.1) = true)
    (h : inRanges ranges c = true) : inRanges others c = false := by
  obtain ⟨r, hr, hc⟩ := List.any_eq_true.mp h
  rw [inRanges, List.any_eq_false]
  intro q hq
  have hrq := List.all_eq_true.mp (List.all_eq_true.mp hapart r hr) q hq
  simp only [Bool.or_eq_true, Bool.and_eq_true, Nat.blt_eq, decide_eq_true_eq] at hrq hc ⊢
  omega

/-- The characters that may not stay as they are, as closed ranges of code points. -/
def capitalRanges : List (Nat × Nat) :=
  (0x130, 0x130) :: lowerRuns.map fun q => (q.first, q.last)

lemma lowered_of_capitalRanges (h : inRanges capitalRanges c = false) : Lowered c := by
  have hrange : ∀ r ∈ capitalRanges, ¬ (r.1 ≤ c.toNat ∧ c.toNat ≤ r.2) := by
    intro r hr
    simpa using List.any_eq_false.mp h r hr
  refine lowered_of_assign? ?_ fun q hq => ?_
  · rintro rfl
    exact hrange (0x130, 0x130) List.mem_cons_self (by decide)
  · have hq' := hrange (q.first, q.last) (List.mem_cons_of_mem _ (List.mem_map_of_mem hq))
    rw [CaseRun.assign?, if_neg fun hmem => hq' ⟨hmem.1, hmem.2.1⟩]

/-- Blanks divide words. -/
lemma divides_of_isBlank (h : isBlank c = true) : Divides c where
  uncased := inRanges_eq_false (by decide +kernel) h
  seen := inRanges_eq_false (by decide +kernel) h
  lowered := lowered_of_capitalRanges (inRanges_eq_false (by decide +kernel) h)

/-! ### Lower case part by part -/

lemma meetsLetter_cons (c : Char) (s : Text) :
    meetsLetter (c :: s) = if isCaseIgnorable c then meetsLetter s else isCased c := by
  rw [meetsLetter, List.dropWhile_cons]
  cases isCaseIgnorable c <;> rfl

namespace Divides

/-- No letter is met beyond a character that divides words, since such a character ends the search
and is none itself. -/
lemma meetsLetter_append (h : Divides c) (s t : Text) :
    meetsLetter (s ++ c :: t) = meetsLetter s := by
  induction s with
  | nil => rw [List.nil_append, meetsLetter_cons, h.seen, h.uncased]; rfl
  | cons x s ih => rw [List.cons_append, meetsLetter_cons, meetsLetter_cons, ih]

lemma lowerHead_eq (h : Divides c) (before s : Text) : lowerHead before c s = [c] := by
  rw [lowerHead, if_neg h.lowered.1, h.lowered.2]

lemma lowerHead_before (h : Divides c) (before t s : Text) (x : Char) :
    lowerHead (before ++ c :: t) x s = lowerHead before x s := by
  rw [lowerHead, lowerHead, lowerSigma, lowerSigma, h.meetsLetter_append]

lemma lowerHead_after (h : Divides c) (before s t : Text) (x : Char) :
    lowerHead before x (s ++ c :: t) = lowerHead before x s := by
  rw [lowerHead, lowerHead, lowerSigma, lowerSigma, h.meetsLetter_append]

/-- What stands before a character that divides words does not matter after it. -/
lemma lowerAfter_before (h : Divides c) (before t s : Text) :
    lowerAfter (before ++ c :: t) s = lowerAfter before s := by
  induction s generalizing before with
  | nil => rfl
  | cons x s ih =>
      rw [lowerAfter_cons, lowerAfter_cons, h.lowerHead_before, ← ih (x :: before)]
      rfl

lemma lowerAfter_append_cons (h : Divides c) (before s t : Text) :
    lowerAfter before (s ++ c :: t) = lowerAfter before s ++ c :: lower t := by
  induction s generalizing before with
  | nil =>
      rw [List.nil_append, lowerAfter_cons, h.lowerHead_eq]
      exact congrArg (c :: ·) (h.lowerAfter_before [] before t)
  | cons x s ih =>
      rw [List.cons_append, lowerAfter_cons, lowerAfter_cons, h.lowerHead_after, ih,
        List.append_assoc]

/-- The parts on both sides of a character that divides words are lowered by themselves. -/
lemma lower_append_cons (h : Divides c) (s t : Text) :
    lower (s ++ c :: t) = lower s ++ c :: lower t := h.lowerAfter_append_cons [] s t

end Divides

/-- What a capital is lowered to comes after the characters before the first capital. -/
lemma le_of_mem_lowerHead (h : d ∈ lowerHead before c s) : d = c ∨ 0x41 ≤ d.toNat := by
  have hspecial : ∀ d ∈ ['σ', 'ς', 'i', '\u0307'], 0x41 ≤ d.toNat :=
    List.all_iff_forall_prop.mp (by decide)
  rw [lowerHead, lowerChar] at h
  split_ifs at h with hsigma hdotted
  · refine Or.inr (hspecial d ?_)
    rw [List.mem_singleton.mp h, lowerSigma]
    split <;> simp
  · exact Or.inr (hspecial d (List.mem_append_right ['σ', 'ς'] h))
  · rw [List.mem_singleton, CaseRun.image] at h
    cases hfind : lowerRuns.findSome? (·.assign? c.toNat) with
    | none => exact Or.inl (by rw [h, hfind])
    | some m =>
        obtain ⟨r, hr, hassign⟩ := List.exists_of_findSome?_eq_some hfind
        have hchars := mapsToChars_of_mem_lowerRuns hr
        have hlow : (lowerRuns.all fun r => decide (0x41 ≤ r.low)) = true := by decide
        have hm := (CaseRun.mem_low_high hchars hassign).2.1
        rw [hfind] at h
        rw [h, toNat_ofNat (CaseRun.isValidChar_of_assign? hchars hassign)]
        exact Or.inr ((of_decide_eq_true (List.all_eq_true.mp hlow r hr)).trans hm)

/-- Lowering a text adds no character from before the first capital. -/
lemma mem_of_mem_lower (hd : d.toNat < 0x41) (h : d ∈ lower s) : d ∈ s := by
  have hafter : ∀ before s, d ∈ lowerAfter before s → d ∈ s := by
    intro before s
    induction s generalizing before with
    | nil => exact id
    | cons c s ih =>
        rw [lowerAfter_cons, List.mem_append, List.mem_cons]
        exact Or.imp (fun h => (le_of_mem_lowerHead h).resolve_right hd.not_ge) (ih _)
  exact hafter [] s h

/-- The parts of a list are lowered by themselves. -/
lemma pieces_comma_lower (s : Text) : pieces ',' (lower s) = (pieces ',' s).map lower :=
  pieces_eq_map (fun _ => mem_of_mem_lower (by decide)) divides_comma.lower_append_cons s

/-! ### Blanks -/

lemma squeeze_append (s t : Text) : squeeze (s ++ t) = squeeze s ++ squeeze t :=
  List.filter_append s t

lemma squeeze_cons_of_isBlank (h : isBlank c = true) (s : Text) : squeeze (c :: s) = squeeze s :=
  List.filter_cons_of_neg (by simp [h])

lemma squeeze_cons_of_not_blank (h : isBlank c = false) (s : Text) :
    squeeze (c :: s) = c :: squeeze s :=
  List.filter_cons_of_pos (by simp [h])

/-- The parts of a list lose their blanks by themselves. -/
lemma pieces_squeeze (hc : isBlank c = false) (s : Text) :
    pieces c (squeeze s) = (pieces c s).map squeeze :=
  pieces_eq_map (f := squeeze) (fun _ h => (List.mem_filter.mp h).1)
    (fun s t => by rw [squeeze_append, squeeze_cons_of_not_blank hc]) s

lemma squeeze_lower_blanks_append (ha : ∀ c ∈ a, isBlank c = true) (s : Text) :
    squeeze (lower (a ++ s)) = squeeze (lower s) := by
  induction a with
  | nil => rfl
  | cons c a ih =>
      have hc := ha c List.mem_cons_self
      have hlower := (divides_of_isBlank hc).lower_append_cons [] (a ++ s)
      rw [List.nil_append] at hlower
      rw [List.cons_append, hlower, squeeze_append, squeeze_cons_of_isBlank hc,
        ih fun x hx => ha x (List.mem_cons_of_mem _ hx)]
      rfl

lemma squeeze_lower_append_blanks (hb : ∀ c ∈ b, isBlank c = true) (s : Text) :
    squeeze (lower (s ++ b)) = squeeze (lower s) := by
  cases b with
  | nil => rw [List.append_nil]
  | cons c b =>
      have hc := hb c List.mem_cons_self
      have hrest : squeeze (lower b) = [] := by
        have hb' : ∀ x ∈ b, isBlank x = true := fun x hx => hb x (List.mem_cons_of_mem _ hx)
        have hblanks := squeeze_lower_blanks_append hb' []
        rwa [List.append_nil] at hblanks
      rw [(divides_of_isBlank hc).lower_append_cons, squeeze_append, squeeze_cons_of_isBlank hc,
        hrest, List.append_nil]

/-- Blanks at the ends of a text do not matter to what it is in lower case without its blanks. -/
lemma squeeze_lower_trim (s : Text) : squeeze (lower s.trim) = squeeze (lower s) := by
  obtain ⟨a, b, ha, hb, hs⟩ := exists_blanks_trim_blanks s
  conv_rhs => rw [hs]
  rw [squeeze_lower_append_blanks hb, squeeze_lower_blanks_append ha]

/-! ### Capital sigmas -/

/-- The forms of the capital sigmas of a text that follows the characters `before`, nearest
first. -/
def sigmaFormsAfter (before : Text) : Text → Text
  | [] => []
  | c :: s => (if c = 'Σ' then [lowerSigma before s] else []) ++ sigmaFormsAfter (c :: before) s

/-- The forms that the capital sigmas of a text take in lower case, in order. -/
def sigmaForms (s : Text) : Text := sigmaFormsAfter [] s

/-- The text in lower case, with the given forms for its capital sigmas, in order. -/
def lowerWith (forms : Text) : Text → Text
  | [] => []
  | c :: s =>
    if c = 'Σ' then forms.take 1 ++ lowerWith (forms.drop 1) s
    else lowerChar c ++ lowerWith forms s

lemma lowerWith_sigma (x : Char) (forms s : Text) :
    lowerWith (x :: forms) ('Σ' :: s) = x :: lowerWith forms s := rfl

lemma lowerWith_of_ne (h : c ≠ 'Σ') (forms s : Text) :
    lowerWith forms (c :: s) = lowerChar c ++ lowerWith forms s := by
  rw [lowerWith, if_neg h]

lemma sigmaFormsAfter_sigma (before s : Text) :
    sigmaFormsAfter before ('Σ' :: s) = lowerSigma before s :: sigmaFormsAfter ('Σ' :: before) s :=
  rfl

lemma sigmaFormsAfter_of_ne (h : c ≠ 'Σ') (before s : Text) :
    sigmaFormsAfter before (c :: s) = sigmaFormsAfter (c :: before) s := by
  rw [sigmaFormsAfter, if_neg h, List.nil_append]

/-- There is a form for each capital sigma. -/
lemma length_sigmaFormsAfter (before s : Text) :
    (sigmaFormsAfter before s).length = s.count 'Σ' := by
  induction s generalizing before with
  | nil => rfl
  | cons c s ih =>
      by_cases hc : c = 'Σ'
      · rw [hc, sigmaFormsAfter_sigma, List.length_cons, ih, List.count_cons_self]
      · rw [sigmaFormsAfter_of_ne hc, ih, List.count_cons_of_ne hc]

lemma mem_sigmaFormsAfter (h : d ∈ sigmaFormsAfter before s) : d ∈ ['σ', 'ς'] := by
  induction s generalizing before with
  | nil => cases h
  | cons c s ih =>
      by_cases hc : c = 'Σ'
      · rw [hc, sigmaFormsAfter_sigma, List.mem_cons] at h
        rcases h with rfl | h
        · rw [lowerSigma]
          split <;> simp
        · exact ih h
      · rw [sigmaFormsAfter_of_ne hc] at h
        exact ih h

/-- Lowering is lowering with the forms that the capital sigmas take. -/
lemma lowerAfter_eq_lowerWith (before s : Text) :
    lowerAfter before s = lowerWith (sigmaFormsAfter before s) s := by
  induction s generalizing before with
  | nil => rfl
  | cons c s ih =>
      rw [lowerAfter_cons, lowerHead]
      by_cases hc : c = 'Σ'
      · rw [if_pos hc, ih, hc, sigmaFormsAfter_sigma, lowerWith_sigma]
        rfl
      · rw [if_neg hc, ih, sigmaFormsAfter_of_ne hc, lowerWith_of_ne hc]

/-- With given forms, no blank matters to another character. -/
lemma squeeze_lowerWith (hforms : ∀ c ∈ forms, isBlank c = false) (s : Text) :
    squeeze (lowerWith forms s) = lowerWith forms (squeeze s) := by
  induction s generalizing forms with
  | nil => rfl
  | cons c s ih =>
      by_cases hc : c = 'Σ'
      · have hsigma : isBlank 'Σ' = false := by decide
        rw [hc, squeeze_cons_of_not_blank hsigma, lowerWith, lowerWith, if_pos rfl, if_pos rfl,
          squeeze_append, ih fun x hx => hforms x (List.mem_of_mem_drop hx)]
        congr 1
        rw [squeeze, List.filter_eq_self]
        intro x hx
        simp [hforms x (List.mem_of_mem_take hx)]
      · rw [lowerWith_of_ne hc, squeeze_append, ih hforms]
        cases hblank : isBlank c with
        | true =>
            rw [squeeze_cons_of_isBlank hblank, (divides_of_isBlank hblank).lowered.2,
              squeeze_cons_of_isBlank hblank]
            rfl
        | false =>
            rw [squeeze_cons_of_not_blank hblank, lowerWith_of_ne hc]
            congr 1
            rw [squeeze, List.filter_eq_self]
            intro x hx
            rcases (lowered_of_mem_lowerChar hc hx).2 with rfl | hx
            · simp [hblank]
            · simp [hx]

/-- A text tells its forms apart, if there is one for each capital sigma. -/
lemma lowerWith_injective (hlength : forms.length = s.count 'Σ')
    (hlength' : forms'.length = s.count 'Σ') (h : lowerWith forms s = lowerWith forms' s) :
    forms = forms' := by
  -- the forms are used up sigma by sigma, and other characters are lowered alike
  induction s generalizing forms forms' with
  | nil =>
      rw [List.count_nil, List.length_eq_zero_iff] at hlength hlength'
      rw [hlength, hlength']
  | cons c s ih =>
      by_cases hc : c = 'Σ'
      · subst hc
        rw [List.count_cons_self] at hlength hlength'
        obtain ⟨x, forms, rfl⟩ := List.exists_cons_of_length_eq_add_one hlength
        obtain ⟨y, forms', rfl⟩ := List.exists_cons_of_length_eq_add_one hlength'
        rw [lowerWith_sigma, lowerWith_sigma, List.cons.injEq] at h
        rw [h.1, ih (Nat.succ.inj hlength) (Nat.succ.inj hlength') h.2]
      · rw [List.count_cons_of_ne hc] at hlength hlength'
        rw [lowerWith_of_ne hc, lowerWith_of_ne hc, List.append_cancel_left_eq] at h
        exact ih hlength hlength' h

/-- The forms of the capital sigmas stand in the text in lower case. -/
lemma mem_lowerWith (hlength : forms.length = s.count 'Σ') (h : d ∈ forms) :
    d ∈ lowerWith forms s := by
  induction s generalizing forms with
  | nil =>
      rw [List.count_nil, List.length_eq_zero_iff] at hlength
      rw [hlength] at h
      cases h
  | cons c s ih =>
      by_cases hc : c = 'Σ'
      · subst hc
        rw [List.count_cons_self] at hlength
        obtain ⟨x, forms, rfl⟩ := List.exists_cons_of_length_eq_add_one hlength
        rw [lowerWith_sigma]
        exact List.mem_cons.mpr ((List.mem_cons.mp h).imp_right (ih (Nat.succ.inj hlength)))
      · rw [List.count_cons_of_ne hc] at hlength
        rw [lowerWith_of_ne hc]
        exact List.mem_append_right _ (ih hlength h)

/-! ### Without blanks -/

lemma length_sigmaForms (s : Text) : (sigmaForms s).length = (squeeze s).count 'Σ' := by
  rw [sigmaForms, length_sigmaFormsAfter, squeeze, List.count_filter (by decide)]

/-- A text in lower case, without its blanks, is made from the text without blanks and the forms of
its capital sigmas. -/
lemma squeeze_lower (s : Text) : squeeze (lower s) = lowerWith (sigmaForms s) (squeeze s) := by
  have hforms : ∀ c ∈ ['σ', 'ς'], isBlank c = false := List.all_iff_forall_prop.mp (by decide)
  rw [lower, lowerAfter_eq_lowerWith]
  exact squeeze_lowerWith (fun c hc => hforms c (mem_sigmaFormsAfter hc)) s

/-- Texts that differ in blanks have the same lower case without blanks exactly if their capital
sigmas take the same forms. -/
lemma squeeze_lower_eq_iff (h : squeeze s = squeeze t) :
    squeeze (lower s) = squeeze (lower t) ↔ sigmaForms s = sigmaForms t := by
  rw [squeeze_lower, squeeze_lower, h]
  refine ⟨fun heq => ?_, fun heq => by rw [heq]⟩
  exact lowerWith_injective (h ▸ length_sigmaForms s) (length_sigmaForms t) heq

end Text

end Grading
