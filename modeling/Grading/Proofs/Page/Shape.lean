/-
The markup of a page, and what it depends on.

* `Piece.blank`: a piece without its data;
* `BatchRecord.shape`: how many submissions there are, and how their problems are judged;
* `map_blank_page`: pages of the same shape have the same markup, at the same places;
* `bodyPieces`, `page_eq`: what stands between the tags of the body.
-/
import Grading.Page.Basic
import Mathlib.Tactic

namespace Grading

namespace Page

/-! ### Pieces without their data -/

/-- The piece without its data. -/
def Piece.blank : Piece → Piece
  | .markup s => .markup s
  | .figure _ => .figure []
  | .text _ => .text []

@[simp] lemma blank_markup (s : String) : (markup s).blank = markup s := rfl

@[simp] lemma blank_figure (s : Text) : (figure s).blank = figure [] := rfl

@[simp] lemma blank_text (s : Text) : (text s).blank = text [] := rfl

/-- Rows for items that differ in their data only have the same markup. -/
lemma map_blank_flatMap {α : Type} {f : α → List Piece} {xs ys : List α}
    (h : List.Forall₂ (fun x y => (f x).map Piece.blank = (f y).map Piece.blank) xs ys) :
    (xs.flatMap f).map Piece.blank = (ys.flatMap f).map Piece.blank := by
  induction h with
  | nil => rfl
  | cons hxy _ ih =>
      rw [List.flatMap_cons, List.flatMap_cons, List.map_append, List.map_append, hxy, ih]

/-- Lists whose items are told apart by nothing else are alike item by item. -/
lemma forall₂_of_map_eq {α β : Type} {g : α → β} {R : α → α → Prop} {xs ys : List α}
    (h : xs.map g = ys.map g) (hR : ∀ x y, g x = g y → R x y) : List.Forall₂ R xs ys := by
  have hforall : List.Forall₂ (fun x y => g x = g y) xs ys := by
    rw [← List.forall₂_eq_eq_eq, List.forall₂_map_left_iff, List.forall₂_map_right_iff] at h
    exact h
  exact hforall.imp hR

end Page

open Page

/-! ### What the markup depends on -/

/-- What the markup of a page depends on. -/
structure PageShape where
  /-- For each graded submission, whether each problem has an answer, and how it is judged. -/
  graded : List (List (Bool × Verdict))
  /-- The number of submissions that could not be graded. -/
  failures : Nat
deriving DecidableEq

/-- Whether the problems of a report have answers, and how they are judged. -/
def Report.shape (r : Report) : List (Bool × Verdict) :=
  r.problems.map fun p => (p.answered, p.mark.verdict)

/-- The shape of the page of a record. -/
def BatchRecord.shape (b : BatchRecord) : PageShape where
  graded := b.batch.graded.map Report.shape
  failures := b.failures.length

namespace Page

lemma map_blank_problemRow {p q : ProblemMark} (hanswered : p.answered = q.answered)
    (hverdict : p.mark.verdict = q.mark.verdict) :
    (problemRow p).map Piece.blank = (problemRow q).map Piece.blank := by
  have hanswer : (answerPiece p).blank = (answerPiece q).blank := by
    rw [answerPiece, answerPiece, hanswered]
    split <;> rfl
  simp [problemRow, cell, hanswer, hverdict]

lemma map_blank_studentTable {r s : Report} (h : r.shape = s.shape) :
    (studentTable r).map Piece.blank = (studentTable s).map Piece.blank := by
  have hrows := map_blank_flatMap (forall₂_of_map_eq h fun p q hpq =>
    map_blank_problemRow (Prod.mk.inj hpq).1 (Prod.mk.inj hpq).2)
  simp [studentTable, hrows]

/-- The bars of a chart differ in their data only. -/
lemma map_blank_chart {rs ss : List Report} (h : rs.length = ss.length) :
    (chart rs).map Piece.blank = (chart ss).map Piece.blank := by
  have hbars : ((rs.mapIdx bar).flatten).map Piece.blank
      = ((ss.mapIdx bar).flatten).map Piece.blank := by
    rw [List.map_flatten, List.map_flatten]
    refine congrArg List.flatten (List.ext_getElem (by simpa using h) fun i hi hi' => ?_)
    simp [bar]
  simp [chart, hbars]

lemma map_blank_summary {rs ss : List Report} (h : rs.length = ss.length) :
    (summary rs).map Piece.blank = (summary ss).map Piece.blank := by
  have hrows : (rs.flatMap summaryRow).map Piece.blank = (ss.flatMap summaryRow).map Piece.blank :=
    map_blank_flatMap (List.forall₂_iff_zip.mpr ⟨h, fun _ => by simp [summaryRow, cell]⟩)
  have hchart : (if rs.isEmpty then [] else chart rs).map Piece.blank
      = (if ss.isEmpty then [] else chart ss).map Piece.blank := by
    have hempty : rs.isEmpty = ss.isEmpty := by
      rw [Bool.eq_iff_iff, List.isEmpty_iff_length_eq_zero, List.isEmpty_iff_length_eq_zero, h]
    rw [hempty]
    split
    · rfl
    · exact map_blank_chart h
  simp only [summary, List.map_append, hrows, hchart]

lemma map_blank_failures {fs gs : List Failure} (h : fs.length = gs.length) :
    (failures fs).map Piece.blank = (failures gs).map Piece.blank := by
  have hitems : (fs.flatMap failureItem).map Piece.blank
      = (gs.flatMap failureItem).map Piece.blank :=
    map_blank_flatMap (List.forall₂_iff_zip.mpr ⟨h, fun _ => by simp [failureItem]⟩)
  have hempty : fs.isEmpty = gs.isEmpty := by
    rw [Bool.eq_iff_iff, List.isEmpty_iff_length_eq_zero, List.isEmpty_iff_length_eq_zero, h]
  rw [failures, failures, hempty]
  split
  · rfl
  · simp only [List.map_append, hitems]

lemma map_blank_breakdown {rs ss : List Report} (h : rs.map Report.shape = ss.map Report.shape) :
    (breakdown rs).map Piece.blank = (breakdown ss).map Piece.blank := by
  have htables := map_blank_flatMap
    (forall₂_of_map_eq h fun _ _ hrs => map_blank_studentTable hrs)
  simp only [breakdown, List.map_append, htables]

/-! ### The body -/

/-- The pieces between the tags of the body. -/
def bodyPieces (b : BatchRecord) : List Piece :=
  header b ++ summary b.batch.graded ++ failures b.failures ++ breakdown b.batch.graded
    ++ savedData b ++ [markup "<script>\n", .markup script, markup "</script>\n"]

lemma page_eq (b : BatchRecord) :
    b.page = head b.assignment ++ bodyPieces b ++ [markup "</body>\n</html>"] := by
  simp only [BatchRecord.page, bodyPieces, foot, List.append_assoc, List.cons_append,
    List.nil_append]

/-- Pages of the same shape have the same markup, at the same places. -/
lemma map_blank_bodyPieces {b b' : BatchRecord} (h : b.shape = b'.shape) :
    (bodyPieces b).map Piece.blank = (bodyPieces b').map Piece.blank := by
  have hgraded : b.batch.graded.map Report.shape = b'.batch.graded.map Report.shape :=
    congrArg PageShape.graded h
  have hlength : b.batch.graded.length = b'.batch.graded.length := by
    simpa using congrArg List.length hgraded
  have hfailures : b.failures.length = b'.failures.length := congrArg PageShape.failures h
  simp [bodyPieces, header, savedData, map_blank_summary hlength, map_blank_failures hfailures,
    map_blank_breakdown hgraded]

lemma map_blank_page {b b' : BatchRecord} (h : b.shape = b'.shape) :
    b.page.map Piece.blank = b'.page.map Piece.blank := by
  simp [page_eq, head, map_blank_bodyPieces h]

end Page

end Grading
