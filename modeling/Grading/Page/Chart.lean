/-
The bar chart of a page: a bar for each student, as long as the share of the points.

* `barScore`: the share, brought between zero and one;
* `barColor`: the colour, by how high the share is;
* `chart`: the chart of all students.
-/
import Grading.Page.Markup
import Grading.Submission.Report

namespace Grading

namespace Page

open Decimal (digits)

/-- The height of a bar. -/
def barHeight : Nat := 30

/-- The length of a bar for all points. -/
def barLength : Nat := 400

/-- The space between bars. -/
def barSpace : Nat := 10

/-- The width of the names in front of the bars. -/
def labelWidth : Nat := 200

/-- The share of the points, brought between zero and one. -/
def barScore (r : Report) : Float :=
  let x := r.percentage
  if x < 0 then 0 else if 1 < x then 1 else x

/-- The colour of a bar. -/
def barColor (score : Float) : Text :=
  if 0.8 ≤ score then "#22c55e".toList
  else if 0.5 ≤ score then "#eab308".toList
  else "#ef4444".toList

/-- The length of a bar in whole steps. -/
def barWidth (score : Float) : Nat := (score * Float.ofNat barLength).toUInt64.toNat

/-- The name, the bar and the share of the student at a position, counted from zero. -/
def bar (i : Nat) (r : Report) : List Piece :=
  let score := barScore r
  let y := i * (barHeight + barSpace) + barSpace
  let width := barWidth score
  let middle := digits (y + barHeight / 2)
  [markup "  <text x=\"", figure (digits (labelWidth - 10)), markup "\" y=\"", figure middle,
   markup "\" font-size=\"14\" fill=\"currentColor\" text-anchor=\"end\" ",
   markup "dominant-baseline=\"middle\">",
   text r.student, markup "</text>\n",
   markup "  <rect x=\"", figure (digits labelWidth), markup "\" y=\"", figure (digits y),
   markup "\" width=\"", figure (digits width), markup "\" height=\"", figure (digits barHeight),
   markup "\" fill=\"", figure (barColor score), markup "\" rx=\"4\"/>\n",
   markup "  <text x=\"", figure (digits (labelWidth + width + 8)), markup "\" y=\"", figure middle,
   markup "\" font-size=\"12\" fill=\"currentColor\" dominant-baseline=\"middle\">",
   figure (percent score), markup "</text>\n"]

/-- The bar chart of reports. -/
def chart (reports : List Report) : List Piece :=
  [markup "<svg width=\"", figure (digits (labelWidth + barLength + 60)), markup "\" height=\"",
   figure (digits (reports.length * (barHeight + barSpace) + barSpace)),
   markup "\" xmlns=\"http://www.w3.org/2000/svg\">\n"]
    ++ (reports.mapIdx bar).flatten ++ [markup "</svg>\n"]

end Page

end Grading
