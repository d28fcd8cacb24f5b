/-
The page that shows the outcome of a batch: a summary of all students with a bar chart, the
submissions that could not be graded, the marks of each student, and the report file as it is
saved.

* `summary`, `failures`, `breakdown`, `savedData`: the sections;
* `BatchRecord.page`: the pieces of the page, and `BatchRecord.pageText` its text.
-/
import Grading.Page.Chart
import Grading.Page.Style
import Grading.Record.Json

namespace Grading

namespace Page

open Decimal (digits)

/-- The name of a verdict, as it is shown. -/
def verdictName : Verdict → String
  | .correct => "Correct"
  | .partialCredit => "Partial Credit"
  | .incorrect => "Incorrect"

/-- The class of a row with a verdict. -/
def verdictClass : Verdict → String
  | .correct => "pass"
  | .partialCredit => "partial"
  | .incorrect => "fail"

/-- What comes before the body. -/
def head (assignment : Text) : List Piece :=
  [markup "<!DOCTYPE html>\n<html lang=\"en\">\n<head>\n",
   markup "<meta charset=\"utf-8\">\n",
   markup "<meta name=\"viewport\" content=\"width=device-width, initial-scale=1\">\n",
   markup "<title>answerkey report: ", text assignment, markup "</title>\n",
   markup "<style>\n", .markup style, markup "</style>\n", markup "</head>\n<body>\n"]

/-- The title of the body. -/
def header (b : BatchRecord) : List Piece :=
  [markup "<header>\n", markup "<h1>answerkey report</h1>\n",
   markup "<p class=\"meta\">Assignment: <strong>", text b.assignment, markup "</strong> | ",
   figure (digits b.graded.length), markup " graded | ", figure (digits b.failures.length),
   markup " failed | mean ", figure (percent b.batch.mean), markup " | ",
   figure b.stamp.time.showTime, markup "</p>\n", markup "</header>\n"]

/-- The row of a student in the summary. -/
def summaryRow (r : Report) : List Piece :=
  markup "<tr>" :: cell [text r.student] ++ cell [figure r.score]
    ++ cell [figure (percent r.percentage)] ++ cell [figure (digits (r.count .correct))]
    ++ cell [figure (digits (r.count .partialCredit))]
    ++ cell [figure (digits (r.count .incorrect))] ++ [markup "</tr>\n"]

/-- The summary of all students. -/
def summary (reports : List Report) : List Piece :=
  [markup "<section class=\"dashboard\">\n", markup "<h2>Summary</h2>\n",
   markup "<table class=\"summary\" id=\"results\">\n",
   markup "<thead><tr><th onclick=\"sortTable(0)\">Student</th>",
   markup "<th onclick=\"sortTable(1)\">Score</th><th onclick=\"sortTable(2)\">Percent</th>",
   markup "<th onclick=\"sortTable(3)\">Correct</th><th onclick=\"sortTable(4)\">Partial</th>",
   markup "<th onclick=\"sortTable(5)\">Incorrect</th></tr></thead>\n",
   markup "<tbody>\n"]
    ++ reports.flatMap summaryRow ++ [markup "</tbody></table>\n"]
    ++ (if reports.isEmpty then [] else chart reports) ++ [markup "</section>\n"]

/-- A submission that could not be graded. -/
def failureItem (f : Failure) : List Piece :=
  [markup "<li><strong>", text f.student, markup "</strong>: ", text f.error, markup "</li>\n"]

/-- The submissions that could not be graded, if there are any. -/
def failures (fs : List Failure) : List Piece :=
  if fs.isEmpty then []
  else
    [markup "<section class=\"failures\">\n", markup "<h2>Failed submissions</h2>\n<ul>\n"]
      ++ fs.flatMap failureItem ++ [markup "</ul>\n</section>\n"]

/-- An answer, or that there is none. -/
def answerPiece (p : ProblemMark) : Piece :=
  if p.answered then text p.mark.answer else markup "<em>unanswered</em>"

/-- The row of a problem. -/
def problemRow (p : ProblemMark) : List Piece :=
  let m := p.mark
  [markup "<tr class=\"", markup (verdictClass m.verdict), markup "\">"]
    ++ cell [text p.number] ++ cell [markup (verdictName m.verdict)]
    ++ cell [figure (points m.points), markup "/", figure (points m.maxPoints)]
    ++ cell [answerPiece p] ++ cell [text (m.solution.getD ['-'])] ++ cell [text m.feedback]
    ++ [markup "</tr>\n"]

/-- The marks of a student. -/
def studentTable (r : Report) : List Piece :=
  [markup "<details>\n<summary>", text r.student, markup ": ", figure r.score,
   markup "</summary>\n", markup "<table>\n",
   markup "<thead><tr><th>Problem</th><th>Status</th><th>Points</th><th>Answer</th>",
   markup "<th>Solution</th><th>Feedback</th></tr></thead>\n",
   markup "<tbody>\n"]
    ++ r.problems.flatMap problemRow ++ [markup "</tbody></table>\n</details>\n"]

/-- The marks of all students. -/
def breakdown (reports : List Report) : List Piece :=
  [markup "<section class=\"results\">\n", markup "<h2>Students</h2>\n"]
    ++ reports.flatMap studentTable ++ [markup "</section>\n"]

/-- The report file. -/
def savedData (b : BatchRecord) : List Piece :=
  [markup "<section class=\"raw-data\">\n", markup "<details>\n<summary>Raw JSON Data</summary>\n",
   markup "<pre><code>", text b.save, markup "</code></pre>\n", markup "</details>\n</section>\n"]

/-- What comes at the end of the body. -/
def foot : List Piece :=
  [markup "<script>\n", .markup script, markup "</script>\n", markup "</body>\n</html>"]

end Page

/-- The pieces of the page that shows a batch. -/
def BatchRecord.page (b : BatchRecord) : List Page.Piece :=
  let reports := b.batch.graded
  Page.head b.assignment ++ Page.header b ++ Page.summary reports ++ Page.failures b.failures
    ++ Page.breakdown reports ++ Page.savedData b ++ Page.foot

/-- The page that shows a batch. -/
def BatchRecord.pageText (b : BatchRecord) : Text := Page.render b.page

end Grading
