/-
The pieces of a page fit into it.

* `Piece.Fits`: markup in which every name of a tag comes to its end, and figures without angle
  brackets;
* `tagNames_render`: the tags of pieces that fit are those of their markup;
* `fits_bodyPieces`, `fits_page`: all pieces of a page are of this kind, and `onceNames` are the
  names that none of its sections uses.
-/
import Grading.Proofs.Page.Figures
import Grading.Proofs.Page.Shape
import Grading.Proofs.Page.Tags

namespace Grading

namespace Page

variable {kept : List Text} {name : Text} {ps : List Piece}

/-! ### Pieces that fit into a page -/

/-- Whether markup can stand in a page: every name of a tag comes to its end, and the names that are
kept for other places are not among them. -/
def markupFits (kept : List Text) (s : Text) : Bool :=
  namesEnd s && (tagNames s).all fun name => !kept.contains name

/-- A piece that can stand in a page: its markup fits, and a figure holds no angle bracket. -/
def Piece.Fits (kept : List Text) : Piece → Prop
  | .markup s => markupFits kept s = true
  | .figure s => holdsAngle s = false
  | .text _ => True

@[simp] lemma fits_markup (kept : List Text) (s : String) :
    (markup s).Fits kept ↔ markupFits kept s.toList = true := Iff.rfl

@[simp] lemma fits_figure (kept : List Text) (s : Text) :
    (figure s).Fits kept ↔ holdsAngle s = false := Iff.rfl

@[simp] lemma fits_text (kept : List Text) (s : Text) : (text s).Fits kept := trivial

lemma fits_nil (kept : List Text) : (∀ p ∈ ([] : List Piece), p.Fits kept) ↔ True := by
  simp

/-- Names need not be kept. -/
lemma Piece.Fits.mono {kept' : List Text} {p : Piece} (h : p.Fits kept)
    (hsub : ∀ name ∈ kept', name ∈ kept) : p.Fits kept' := by
  cases p with
  | markup s =>
      have hfits : markupFits kept s = true := h
      rw [markupFits, Bool.and_eq_true, List.all_eq_true] at hfits
      refine (Bool.and_eq_true _ _).mpr ⟨hfits.1, List.all_eq_true.mpr fun name hmem => ?_⟩
      have hname := hfits.2 name hmem
      rw [Bool.not_eq_true', List.contains_eq_mem, decide_eq_false_iff_not] at hname ⊢
      exact fun h => hname (hsub name h)
  | figure s => exact h
  | text s => trivial

/-- Only markup holds angle brackets. -/
lemma Piece.Fits.exists_markup {p : Piece} (h : p.Fits kept) (hangle : holdsAngle p.render = true) :
    ∃ s, p = .markup s := by
  cases p with
  | markup s => exact ⟨s, rfl⟩
  | figure s =>
      have hfree : holdsAngle s = false := h
      rw [Piece.render, hfree] at hangle
      cases hangle
  | text s =>
      rw [Piece.render, holdsAngle_escape] at hangle
      cases hangle

lemma notMem_of_holdsAngle {s : Text} (h : holdsAngle s = false) : '<' ∉ s := fun hmem =>
  absurd (holdsAngle_eq_false_iff.mp h '<' hmem) (by decide)

/-- The names of the tags of a piece come to their end, and are those of its markup. -/
lemma Piece.Fits.namesEnd_render {p : Piece} (h : p.Fits kept) :
    namesEnd p.render = true ∧ tagNames p.render = tagNames p.blank.render := by
  cases p with
  | markup s =>
      have hfits : markupFits kept s = true := h
      rw [markupFits, Bool.and_eq_true] at hfits
      exact ⟨hfits.1, rfl⟩
  | figure s =>
      have hfree := notMem_of_holdsAngle (show holdsAngle s = false from h)
      exact ⟨namesEnd_of_notMem hfree, tagNames_eq_nil hfree⟩
  | text s =>
      have hfree := notMem_of_holdsAngle (holdsAngle_escape s)
      exact ⟨namesEnd_of_notMem hfree, tagNames_eq_nil hfree⟩

/-- The names that are kept for other places are none of its tags. -/
lemma Piece.Fits.notMem_tagNames {p : Piece} (h : p.Fits kept) (hname : name ∈ kept) :
    name ∉ tagNames p.render := by
  cases p with
  | markup s =>
      have hfits : markupFits kept s = true := h
      rw [markupFits, Bool.and_eq_true, List.all_eq_true] at hfits
      intro hmem
      simpa [hname] using hfits.2 name hmem
  | figure s => simp [tagNames_eq_nil (notMem_of_holdsAngle (show holdsAngle s = false from h)),
      Piece.render]
  | text s => simp [tagNames_eq_nil (notMem_of_holdsAngle (holdsAngle_escape s)), Piece.render]

/-! ### The tags of pieces in a row -/

lemma render_cons (p : Piece) (ps : List Piece) : render (p :: ps) = p.render ++ render ps :=
  List.flatMap_cons

lemma render_append (ps qs : List Piece) : render (ps ++ qs) = render ps ++ render qs :=
  List.flatMap_append

lemma namesEnd_render (h : ∀ p ∈ ps, p.Fits kept) : namesEnd (render ps) = true := by
  induction ps with
  | nil => rfl
  | cons p ps ih =>
      rw [List.forall_mem_cons] at h
      rw [render_cons]
      exact namesEnd_append h.1.namesEnd_render.1 (ih h.2)

/-- The tags of pieces are those of their markup. -/
lemma tagNames_render (h : ∀ p ∈ ps, p.Fits kept) :
    tagNames (render ps) = tagNames (render (ps.map Piece.blank)) := by
  induction ps with
  | nil => rfl
  | cons p ps ih =>
      rw [List.forall_mem_cons] at h
      obtain ⟨hend, htags⟩ := h.1.namesEnd_render
      have hblank : namesEnd p.blank.render = true := by
        cases p with
        | markup s => exact hend
        | figure s => rfl
        | text s => rfl
      rw [List.map_cons, render_cons, render_cons, tagNames_append hend, tagNames_append hblank,
        htags, ih h.2]

lemma notMem_tagNames_render (h : ∀ p ∈ ps, p.Fits kept) (hname : name ∈ kept) :
    name ∉ tagNames (render ps) := by
  induction ps with
  | nil => exact List.not_mem_nil
  | cons p ps ih =>
      rw [List.forall_mem_cons] at h
      rw [render_cons, tagNames_append h.1.namesEnd_render.1, List.mem_append, not_or]
      exact ⟨h.1.notMem_tagNames hname, ih h.2⟩

/-! ### The pieces of a page -/

/-- The names of the tags that a page has once. -/
def onceNames : List Text := ["body".toList, "/body".toList, "pre".toList]

-- The characters of a literal are compared as such, which is faster than decoding the literal.
lemma markupFits_toList {s : String} {cs : Text} (hs : s = String.ofList cs)
    (h : markupFits kept cs = true) : markupFits kept s.toList = true := by
  rw [hs, String.toList_ofList]
  exact h

lemma notMem_toList {s : String} {cs : Text} (hs : s = String.ofList cs)
    (h : cs.contains '<' = false) : '<' ∉ s.toList := by
  rw [hs, String.toList_ofList, ← List.contains_iff_mem, h]
  exact Bool.false_ne_true

lemma markupFits_of_notMem {s : Text} (h : '<' ∉ s) : markupFits kept s = true := by
  rw [markupFits, namesEnd_of_notMem h, tagNames_eq_nil h]
  rfl

/-- The style sheet and the script have no tags. -/
lemma fits_style : (Piece.markup style).Fits kept := by
  refine markupFits_of_notMem ?_
  simp only [style, Text.ofLines, List.flatMap_cons, List.flatMap_nil, String.toList_append,
    List.mem_append, List.append_nil, not_or]
  and_intros <;> first | exact notMem_toList rfl rfl | decide

lemma fits_script : (Piece.markup script).Fits kept := by
  refine markupFits_of_notMem ?_
  simp only [script, Text.ofLines, List.flatMap_cons, List.flatMap_nil, String.toList_append,
    List.mem_append, List.append_nil, not_or]
  and_intros <;> first | exact notMem_toList rfl rfl | decide

lemma fits_head (assignment : Text) :
    ∀ p ∈ head assignment, p.Fits ["/body".toList, "pre".toList] := by
  simp only [head, List.forall_mem_cons, fits_nil, fits_style, fits_markup, fits_text,
    true_and, and_true]
  and_intros <;> exact markupFits_toList rfl rfl

lemma fits_header (b : BatchRecord) : ∀ p ∈ header b, p.Fits onceNames := by
  simp only [header, List.forall_mem_cons, fits_nil, fits_markup, fits_text,
    fits_figure, holdsAngle_digits, holdsAngle_percent, holdsAngle_showTime, true_and, and_true]
  and_intros <;> exact markupFits_toList rfl rfl

lemma fits_summaryRow (r : Report) : ∀ p ∈ summaryRow r, p.Fits onceNames := by
  simp only [summaryRow, cell, List.cons_append, List.nil_append, List.forall_mem_cons,
    fits_nil, fits_markup, fits_text, fits_figure, holdsAngle_digits,
    holdsAngle_percent, holdsAngle_score, true_and, and_true]
  and_intros <;> exact markupFits_toList rfl rfl

lemma fits_bar (i : Nat) (r : Report) : ∀ p ∈ bar i r, p.Fits onceNames := by
  simp only [bar, List.forall_mem_cons, fits_nil, fits_markup, fits_text, fits_figure,
    holdsAngle_digits, holdsAngle_percent, holdsAngle_barColor, true_and, and_true]
  and_intros <;> exact markupFits_toList rfl rfl

lemma fits_chart (reports : List Report) : ∀ p ∈ chart reports, p.Fits onceNames := by
  have hbars : ∀ p ∈ (reports.mapIdx bar).flatten, p.Fits onceNames := by
    intro p hp
    obtain ⟨pieces, hpieces, hmem⟩ := List.mem_flatten.mp hp
    obtain ⟨i, hi, rfl⟩ := List.mem_mapIdx.mp hpieces
    exact fits_bar i _ p hmem
  simp only [chart, List.forall_mem_append, List.forall_mem_cons, fits_nil, fits_markup,
    fits_figure, holdsAngle_digits, true_and, and_true]
  refine ⟨⟨?_, hbars⟩, ?_⟩
  all_goals and_intros <;> exact markupFits_toList rfl rfl

lemma forall_mem_flatMap {α β : Type} {f : α → List β} {P : β → Prop}
    (h : ∀ a, ∀ b ∈ f a, P b) (as : List α) : ∀ b ∈ as.flatMap f, P b := by
  intro b hb
  obtain ⟨a, -, hmem⟩ := List.mem_flatMap.mp hb
  exact h a b hmem

lemma fits_summary (reports : List Report) : ∀ p ∈ summary reports, p.Fits onceNames := by
  have hchart : ∀ p ∈ (if reports.isEmpty then [] else chart reports), p.Fits onceNames := by
    split
    · exact fun _ h => absurd h List.not_mem_nil
    · exact fits_chart reports
  simp only [summary, List.forall_mem_append, List.forall_mem_cons, fits_nil,
    fits_markup, and_true]
  refine ⟨⟨⟨⟨?_, forall_mem_flatMap fits_summaryRow reports⟩, ?_⟩, hchart⟩, ?_⟩
  all_goals and_intros <;> exact markupFits_toList rfl rfl

lemma fits_failureItem (f : Failure) : ∀ p ∈ failureItem f, p.Fits onceNames := by
  simp only [failureItem, List.forall_mem_cons, fits_nil, fits_markup, fits_text,
    true_and, and_true]
  and_intros <;> exact markupFits_toList rfl rfl

lemma fits_failures (fs : List Failure) : ∀ p ∈ failures fs, p.Fits onceNames := by
  rw [failures]
  split
  · exact fun _ h => absurd h List.not_mem_nil
  · simp only [List.forall_mem_append, List.forall_mem_cons, fits_nil, fits_markup,
      and_true]
    refine ⟨⟨?_, forall_mem_flatMap fits_failureItem fs⟩, ?_⟩
    all_goals and_intros <;> exact markupFits_toList rfl rfl

lemma fits_problemRow (p : ProblemMark) : ∀ q ∈ problemRow p, q.Fits onceNames := by
  have hanswer : (answerPiece p).Fits onceNames := by
    rw [answerPiece]
    split
    · exact fits_text _ _
    · exact markupFits_toList rfl rfl
  have hname : ∀ v, markupFits onceNames (verdictName v).toList = true := by
    rintro (_ | _ | _) <;> exact markupFits_toList rfl rfl
  have hclass : ∀ v, markupFits onceNames (verdictClass v).toList = true := by
    rintro (_ | _ | _) <;> exact markupFits_toList rfl rfl
  simp only [problemRow, cell, List.cons_append, List.nil_append, List.forall_mem_cons,
    fits_nil, hanswer, hname, hclass, fits_markup, fits_text, fits_figure,
    holdsAngle_points, true_and, and_true]
  and_intros <;> exact markupFits_toList rfl rfl

lemma fits_studentTable (r : Report) : ∀ p ∈ studentTable r, p.Fits onceNames := by
  simp only [studentTable, List.forall_mem_append, List.forall_mem_cons, fits_nil,
    fits_markup, fits_text, fits_figure, holdsAngle_score, true_and, and_true]
  refine ⟨⟨?_, forall_mem_flatMap fits_problemRow r.problems⟩, ?_⟩
  all_goals and_intros <;> exact markupFits_toList rfl rfl

lemma fits_breakdown (reports : List Report) : ∀ p ∈ breakdown reports, p.Fits onceNames := by
  simp only [breakdown, List.forall_mem_append, List.forall_mem_cons, fits_nil,
    fits_markup, and_true]
  refine ⟨⟨?_, forall_mem_flatMap fits_studentTable reports⟩, ?_⟩
  all_goals and_intros <;> exact markupFits_toList rfl rfl

lemma fits_savedData (b : BatchRecord) :
    ∀ p ∈ savedData b, p.Fits ["body".toList, "/body".toList] := by
  simp only [savedData, List.forall_mem_cons, fits_nil, fits_markup, fits_text,
    true_and, and_true]
  and_intros <;> exact markupFits_toList rfl rfl

lemma fits_bodyPieces (b : BatchRecord) :
    ∀ p ∈ bodyPieces b, p.Fits ["body".toList, "/body".toList] := by
  have hmono {ps : List Piece} (h : ∀ p ∈ ps, p.Fits onceNames) :
      ∀ p ∈ ps, p.Fits ["body".toList, "/body".toList] :=
    fun p hp => (h p hp).mono (by decide)
  simp only [bodyPieces, List.forall_mem_append, List.forall_mem_cons, fits_nil, fits_script,
    fits_markup, and_true, true_and]
  refine ⟨⟨⟨⟨⟨hmono (fits_header b), hmono (fits_summary _)⟩, hmono (fits_failures _)⟩,
    hmono (fits_breakdown _)⟩, fits_savedData b⟩, ?_⟩
  and_intros <;> exact markupFits_toList rfl rfl

lemma fits_page (b : BatchRecord) : ∀ p ∈ b.page, p.Fits [] := by
  have hend : (markup "</body>\n</html>").Fits [] := markupFits_toList rfl rfl
  have hmono {kept : List Text} {ps : List Piece} (h : ∀ p ∈ ps, p.Fits kept) :
      ∀ p ∈ ps, p.Fits [] :=
    fun p hp => (h p hp).mono (List.forall_mem_nil _)
  rw [page_eq, List.forall_mem_append, List.forall_mem_append, List.forall_mem_singleton]
  exact ⟨⟨hmono (fits_head _), hmono (fits_bodyPieces b)⟩, hend⟩

/-- Before the body, pieces without a tag that the page has once. -/
lemma exists_head_eq (assignment : Text) :
    ∃ front, head assignment = front ++ [markup "</head>\n<body>\n"]
      ∧ ∀ p ∈ front, p.Fits onceNames := by
  refine ⟨(head assignment).dropLast, by simp [head], ?_⟩
  simp only [head, List.dropLast_cons_cons, List.dropLast_singleton, List.forall_mem_cons,
    fits_nil, fits_style, fits_markup, fits_text, true_and, and_true]
  and_intros <;> exact markupFits_toList rfl rfl

end Page

end Grading
