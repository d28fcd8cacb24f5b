/-
Commands on problem numbers.

* `problemsPlan`: makes a response file without answers from a list of problems;
* `sortPlan`: sorts the lines of a file by problem number.
-/
import Grading.Command.Plan
import Grading.Command.Setting
import Grading.Numbering.Sorted

namespace Grading

/-- The problems of a list that has some. -/
def listedProblems (list : Text) : Except CommandError (List ProblemNumber) := do
  let problems ← (expandListing list).mapError .listing
  if problems.isEmpty then .error (.emptyListing list) else return problems

/-- What making a response file from a list does: it is shown unless a file for it is named, which
must not be there yet. -/
def problemsPlan (files : Files) (list : Text) (output : Option Path) : Plan :=
  .ofExcept (listedProblems list) fun problems =>
    let text := responseTemplate (problems.map ProblemNumber.render)
    match output with
    | none => { actions := [.print text] }
    | some file =>
      if files.has file then .fail (.alreadyThere file)
      else
        { actions := [.write (some .writeLines) file text,
            .printLine ("Created ".toList ++ file ++ " (".toList ++ Decimal.digits problems.length
              ++ " problems)".toList)] }

/-- What sorting the lines of a file does. -/
def sortPlan (files : Files) (file : Path) : Plan :=
  .ofExcept (readFor .readLines files file) fun text =>
    let sorted := sortLines text
    { actions := [.write (some .writeLines) file sorted,
        .printLine ("Sorted ".toList ++ file ++ " (".toList
          ++ Decimal.digits (Text.lines sorted).length ++ " lines)".toList)] }

end Grading
