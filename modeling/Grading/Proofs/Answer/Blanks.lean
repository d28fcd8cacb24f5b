/-
Blanks in answers and in accepted texts, where spacing does not count. They matter to nothing but
the form of capital sigmas: a text is put in lower case with its blanks, and a sigma before a blank
takes the final form.

* `normalize_eq_iff`, `text_normalize_eq_iff`: texts that differ in blanks have the same normal form
  exactly if their capital sigmas take the same forms;
* `Alternative.Respaced`, `Mark.Respaced`: alternatives that differ in the blanks of their values
  only, and marks that differ in the blanks of the values that they show;
* `mark_blanks_iff`: answers that differ in blanks earn the same exactly if their capital sigmas
  take the same forms, and alternatives that differ in blanks only earn the same up to the blanks
  that are shown;
* `rejects_blank_after_sigma`: a blank after a capital sigma makes a correct answer incorrect.
-/
import Grading.Proofs.Answer.Priority
import Grading.Proofs.Problem.Forms
import Grading.Proofs.Text.Sigma

namespace Grading

open Text (squeeze sigmaForms)

variable {rules : Rules} {p q : Problem} {s t : Text}

/-! ### Normal forms -/

/-- Where spacing does not count, blanks at the ends count no more than others. -/
lemma foldCase_eq_squeeze_lower (h : rules.preserveSpacing = false) (s : Text) :
    foldCase rules s = squeeze s.lower := by
  rw [foldCase, if_neg (by simp [h]), Text.squeeze_lower_trim]

/-- A text with a capital sigma is no fraction. -/
lemma normalize_of_sigmaForms_ne_nil (h : rules.preserveSpacing = false)
    (hsigma : sigmaForms s ≠ []) : normalize rules s = ⟨foldCase rules s, none⟩ := by
  obtain ⟨c, hc⟩ := List.exists_mem_of_ne_nil _ hsigma
  have hmem : c ∈ foldCase rules s := by
    rw [foldCase_eq_squeeze_lower h, Text.squeeze_lower]
    exact Text.mem_lowerWith (Text.length_sigmaForms s) hc
  have hforms : ∀ c ∈ ['σ', 'ς'], Decimal.isDigit c = false ∧ c ∉ ['.', '-', '/']
      ∧ Text.isBlank c = false := List.all_iff_forall_prop.mp (by decide)
  obtain ⟨hdigit, hmark, hblank⟩ := hforms c (Text.mem_sigmaFormsAfter hc)
  exact convertFraction_of_eq_none (fractionParts?_eq_none_of_mem hmem hdigit hmark hblank)

/-- Texts that differ in blanks have the same normal form if their capital sigmas take the same
forms. -/
lemma normalize_eq_of_sigmaForms (h : rules.preserveSpacing = false) (hst : squeeze s = squeeze t)
    (hforms : sigmaForms s = sigmaForms t) : normalize rules s = normalize rules t := by
  rw [normalize, normalize, foldCase_eq_squeeze_lower h, foldCase_eq_squeeze_lower h,
    (Text.squeeze_lower_eq_iff hst).mpr hforms]

/-- Texts that differ in blanks are brought into the same text exactly if their capital sigmas take
the same forms. -/
lemma text_normalize_eq_iff (h : rules.preserveSpacing = false) (hst : squeeze s = squeeze t) :
    (normalize rules s).text = (normalize rules t).text ↔ sigmaForms s = sigmaForms t := by
  refine ⟨fun htext => ?_, fun hforms => congrArg Normal.text
    (normalize_eq_of_sigmaForms h hst hforms)⟩
  have hlength : (sigmaForms s).length = (sigmaForms t).length := by
    rw [Text.length_sigmaForms, Text.length_sigmaForms, hst]
  -- only texts without a capital sigma can be fractions, and those have no forms to differ in
  by_cases hs : sigmaForms s = []
  · rw [hs, List.length_nil] at hlength
    rw [hs, List.length_eq_zero_iff.mp hlength.symm]
  · have ht : sigmaForms t ≠ [] := fun ht =>
      hs (List.length_eq_zero_iff.mp (hlength.trans (congrArg List.length ht)))
    rw [normalize_of_sigmaForms_ne_nil h hs, normalize_of_sigmaForms_ne_nil h ht] at htext
    simp only [foldCase_eq_squeeze_lower h] at htext
    exact (Text.squeeze_lower_eq_iff hst).mp htext

lemma normalize_eq_iff (h : rules.preserveSpacing = false) (hst : squeeze s = squeeze t) :
    normalize rules s = normalize rules t ↔ sigmaForms s = sigmaForms t :=
  ⟨fun heq => (text_normalize_eq_iff h hst).mp (congrArg Normal.text heq),
    normalize_eq_of_sigmaForms h hst⟩

/-! ### Alternatives and marks -/

/-- Alternatives that differ in the blanks of their values only, and not in a way that bears on a
capital sigma. -/
structure Alternative.Respaced (a b : Alternative) : Prop where
  /-- Their credit, tolerance and feedback is the same. -/
  withValue_eq : a.withValue [] = b.withValue []
  /-- Their values are the same without blanks. -/
  squeeze_eq : squeeze a.value = squeeze b.value
  /-- The capital sigmas of their values take the same forms. -/
  sigmaForms_eq : sigmaForms a.value = sigmaForms b.value

/-- Marks that differ only in the blanks of the values that they show. -/
structure Mark.Respaced (m m' : Mark) : Prop where
  verdict_eq : m.verdict = m'.verdict
  points_eq : m.points = m'.points
  maxPoints_eq : m.maxPoints = m'.maxPoints
  answer_eq : m.answer = m'.answer
  diagnostics_eq : m.diagnostics = m'.diagnostics
  matched : Option.Rel Alternative.Respaced m.matched m'.matched
  solution_eq : m.solution.map squeeze = m'.solution.map squeeze
  /-- An answer that matches is told the same. -/
  feedback_eq : m.matched.isSome = true → m.feedback = m'.feedback
  /-- One that does not is told the solution. -/
  feedback_eq_solutionFeedback : m.matched = none →
    m.feedback = solutionFeedback m.solution ∧ m'.feedback = solutionFeedback m'.solution

namespace Alternative.Respaced

variable {a b : Alternative}

lemma ratio_eq (h : a.Respaced b) : a.ratio = b.ratio := (congrArg ratio h.withValue_eq :)

lemma feedback_eq (h : a.Respaced b) : a.feedback = b.feedback :=
  (congrArg feedback h.withValue_eq :)

lemma isFullCredit_eq (h : a.Respaced b) : a.isFullCredit = b.isFullCredit :=
  (congrArg isFullCredit h.withValue_eq :)

lemma normalize_eq (hspacing : rules.preserveSpacing = false) (h : a.Respaced b) :
    normalize rules a.value = normalize rules b.value :=
  normalize_eq_of_sigmaForms hspacing h.squeeze_eq h.sigmaForms_eq

/-- The same answers match. -/
lemma accepts_eq (hspacing : rules.preserveSpacing = false) (h : a.Respaced b) (raw : Text) :
    a.accepts rules raw = b.accepts rules raw := by
  have hmatch : a.match? rules = b.match? rules :=
    (congrArg (fun a : Alternative => a.match? rules) h.withValue_eq :)
  rw [accepts, accepts, hmatch, h.normalize_eq hspacing]

end Alternative.Respaced

section Related

variable {α β γ : Type} {R : α → β → Prop} {l : List α} {l' : List β}

lemma map_eq_of_forall₂ {f : α → γ} {g : β → γ} (h : List.Forall₂ R l l')
    (hfg : ∀ a b, R a b → f a = g b) : l.map f = l'.map g := by
  induction h with
  | nil => rfl
  | cons hab _ ih => rw [List.map_cons, List.map_cons, hfg _ _ hab, ih]

/-- What is found first in related lists is related. -/
lemma rel_find? {f : α → Bool} {g : β → Bool} (h : List.Forall₂ R l l')
    (hfg : ∀ a b, R a b → f a = g b) : Option.Rel R (l.find? f) (l'.find? g) := by
  induction h with
  | nil => exact .none
  | @cons a b l l' hab _ ih =>
      rw [List.find?_cons, List.find?_cons, hfg a b hab]
      cases g b with
      | true => exact .some hab
      | false => exact ih

end Related

/-- With alternatives that differ in blanks only, the same is told of divisions by zero. -/
lemma diagnostics_mark_eq (hspacing : rules.preserveSpacing = false)
    (h : List.Forall₂ Alternative.Respaced p.alternatives q.alternatives) (raw : Text) :
    (p.mark rules raw).diagnostics = (q.mark rules raw).diagnostics := by
  have haccepts := map_eq_of_forall₂ h fun a b hab => hab.accepts_eq hspacing raw
  have hindex : p.alternatives.findIdx (Alternative.accepts rules raw)
      = q.alternatives.findIdx (Alternative.accepts rules raw) := by
    have hmapped := congrArg (List.findIdx id) haccepts
    rwa [List.findIdx_map, List.findIdx_map] at hmapped
  have hnormal := map_eq_of_forall₂ h fun a b hab => hab.normalize_eq hspacing
  have htried : (p.triedValues rules raw).map (normalize rules)
      = (q.triedValues rules raw).map (normalize rules) := by
    rw [Problem.triedValues, Problem.triedValues, List.map_map, List.map_map, List.map_take,
      List.map_take, hindex]
    exact congrArg (List.take _) hnormal
  rw [p.diagnostics_mark, q.diagnostics_mark, diagnosticsOf, diagnosticsOf, List.map_cons,
    List.map_cons, htried]

lemma map_squeeze_eq {m m' : Option Alternative} (h : Option.Rel Alternative.Respaced m m') :
    (m.map Alternative.value).map squeeze = (m'.map Alternative.value).map squeeze := by
  cases h with
  | none => rfl
  | some hab => exact congrArg some hab.squeeze_eq

/-- An answer earns the same for alternatives that differ in blanks only, up to the blanks that are
shown. -/
lemma respaced_mark (hspacing : rules.preserveSpacing = false)
    (h : List.Forall₂ Alternative.Respaced p.alternatives q.alternatives) (raw : Text) :
    (p.mark rules raw).Respaced (q.mark rules raw) := by
  -- alternatives accept alike, so that the same is matched
  have hmatched : Option.Rel Alternative.Respaced (p.mark rules raw).matched
      (q.mark rules raw).matched := by
    rw [p.matched_mark, q.matched_mark]
    exact rel_find? h fun a b hab => hab.accepts_eq hspacing raw
  have hsolution : p.solution?.map squeeze = q.solution?.map squeeze :=
    map_squeeze_eq (rel_find? h fun a b hab => hab.isFullCredit_eq)
  have hdiagnostics := diagnostics_mark_eq hspacing h raw
  cases hp : (p.mark rules raw).matched with
  | none =>
      cases hq : (q.mark rules raw).matched with
      | some b => rw [hp, hq] at hmatched; cases hmatched
      | none =>
          rw [Problem.mark_eq_incorrectMark hp, Problem.mark_eq_incorrectMark hq]
          exact ⟨rfl, rfl, rfl, rfl, hdiagnostics, .none, hsolution, nofun, fun _ => ⟨rfl, rfl⟩⟩
  | some a =>
      cases hq : (q.mark rules raw).matched with
      | none => rw [hp, hq] at hmatched; cases hmatched
      | some b =>
          rw [hp, hq] at hmatched
          cases hmatched with
          | some hab =>
              rw [Problem.mark_eq_creditMark hp, Problem.mark_eq_creditMark hq]
              refine ⟨?_, ?_, rfl, rfl, hdiagnostics, .some hab, hsolution,
                fun _ => hab.feedback_eq, nofun⟩
              · rw [Problem.creditMark, Problem.creditMark, hab.ratio_eq]
              · rw [Problem.creditMark, Problem.creditMark, hab.ratio_eq]

/-! ### The result -/

/-- **Blanks where spacing does not count**: texts that differ in blanks have the same normal form,
and as answers earn the same, exactly if their capital sigmas take the same forms in lower case.
Alternatives that differ only in blanks, and not in these forms, earn every answer the same up to
the blanks of the values that are shown. -/
theorem mark_blanks_iff (rules : Rules) (hspacing : rules.preserveSpacing = false) :
    (∀ s t, squeeze s = squeeze t →
        (normalize rules s = normalize rules t ↔ sigmaForms s = sigmaForms t)
          ∧ ∀ p : Problem, p.mark rules s = p.mark rules t ↔ sigmaForms s = sigmaForms t)
      ∧ ∀ p q : Problem, List.Forall₂ Alternative.Respaced p.alternatives q.alternatives →
          ∀ raw, (p.mark rules raw).Respaced (q.mark rules raw) := by
  refine ⟨fun s t hst => ⟨normalize_eq_iff hspacing hst, fun p => ?_⟩,
    fun p q h raw => respaced_mark hspacing h raw⟩
  constructor
  · intro hmark
    have hanswer := congrArg Mark.answer hmark
    rw [p.answer_mark, p.answer_mark] at hanswer
    exact (text_normalize_eq_iff hspacing hst).mp hanswer
  · intro hforms
    exact p.mark_congr (normalize_eq_of_sigmaForms hspacing hst hforms)

/-- A list with blanks in other places than the accepted one, with a capital sigma that begins a
word. -/
theorem mark_blanks_iff_list :
    let p : Problem := ⟨"1".toList, [.ofTags "ΣA, 5".toList []]⟩
    let q : Problem := ⟨"1".toList, [.ofTags "ΣA,5".toList []]⟩
    ({} : Rules).preserveSpacing = false
      ∧ squeeze " ΣA ,5 ".toList = squeeze "ΣA,5".toList
      ∧ p.mark {} " ΣA ,5 ".toList = p.mark {} "ΣA,5".toList
      ∧ List.Forall₂ Alternative.Respaced p.alternatives q.alternatives
      ∧ (p.mark {} "ΣA,5".toList).Respaced (q.mark {} "ΣA,5".toList) := by
  intro p q
  have hblanks : squeeze " ΣA ,5 ".toList = squeeze "ΣA,5".toList := by decide +kernel
  have halternatives : List.Forall₂ Alternative.Respaced p.alternatives q.alternatives :=
    .cons ⟨rfl, by decide +kernel, by decide +kernel⟩ .nil
  obtain ⟨hanswers, hvalues⟩ := mark_blanks_iff {} rfl
  exact ⟨rfl, hblanks, ((hanswers _ _ hblanks).2 p).mpr (by decide +kernel), halternatives,
    hvalues p q halternatives _⟩

/-- A blank after a capital sigma, in the answer or in the accepted text, makes a correct answer
incorrect. -/
theorem rejects_blank_after_sigma :
    let p : Problem := ⟨"1".toList, [.ofTags "AΣB".toList []]⟩
    let q : Problem := ⟨"1".toList, [.ofTags "AΣ B".toList []]⟩
    squeeze "AΣ B".toList = squeeze "AΣB".toList
      ∧ Problem.ofLine "1".toList "AΣB".toList = .ok p
      ∧ Problem.ofLine "1".toList "AΣ B".toList = .ok q
      ∧ (p.mark {} "AΣB".toList).verdict = .correct
      ∧ (p.mark {} "AΣ B".toList).verdict = .incorrect
      ∧ (q.mark {} "AΣB".toList).verdict = .incorrect :=
  ⟨by decide +kernel, by rfl, by rfl, by decide +kernel, by decide +kernel, by decide +kernel⟩

end Grading
