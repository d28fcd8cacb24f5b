/-
Commands on a file with a key.

* `keyWarnings`: what is wrong with the lines of a key;
* `compilePlan`: unrolls the shorthand of a key, in place or to be shown;
* `templatePlan`: makes a response file without answers.
-/
import Grading.Command.Plan
import Grading.Command.Setting
import Grading.Key.Entry
import Grading.Problem.Basic

namespace Grading

/-- The forms under which the settings accept a value. -/
def Settings.expander (s : Settings) : Expander :=
  if s.expandEquivalents then .withParentheses else .asWritten

/-- What is wrong with the lines of a key that cannot be read. -/
def keyFaults (key : Key) : List GradingError :=
  key.filterMap fun line =>
    match Problem.ofKeyLine line with
    | .ok _ => none
    | .error e => some e

/-- How the user is told what is wrong with a key. -/
def keyWarnings (key : Key) : List Text :=
  let faults := keyFaults key
  faults.map (fun e => "WARNING: ".toList ++ e.message)
    ++ if faults.isEmpty then []
      else [[], Decimal.digits faults.length ++ " warning(s) found.".toList]

/-- What is done to put the unrolled key in place of its shorthand. -/
def replaceActions (solution : Path) (r : Recompiled) : List Action :=
  let lines := Decimal.digits r.lines
  let changed := Decimal.digits r.changed
  [.write (some .writeKey) solution r.text,
   .log .info ("compiled ".toList ++ solution ++ " (".toList ++ lines ++ " lines, ".toList
     ++ changed ++ " changed)".toList),
   .printLine ("Compiled ".toList ++ solution ++ ": ".toList ++ lines ++ " problems, ".toList
     ++ changed ++ " changed".toList)]

/-- What unrolling a key does. What is wrong with its lines is told afterwards. -/
def compilePlan (around : Surroundings) (files : Files) (solution : Path) (inPlace : Bool)
    (config : Option Path) : Plan :=
  .ofExcept (do
    let settings ← findSettings around files config
    return (settings.expander, ← readFor .readKey files solution)) fun (expand, text) =>
    let warnings := fun (key : Text) => (keyWarnings (Key.ofText key)).map Action.tell
    if inPlace then
      let r := recompile expand text
      { actions := replaceActions solution r ++ warnings r.text }
    else { actions := .printLine (compileKey expand text) :: warnings text }

/-- What making a response file from a key does: it is shown unless a file for it is named. -/
def templatePlan (files : Files) (solution : Path) (output : Option Path) : Plan :=
  .ofExcept (readKey files solution) fun key =>
    let text := responseTemplate (key.map NumberedLine.number)
    match output with
    | none => { actions := [.print text] }
    | some file =>
      { actions := [.write (some .writeTemplate) file text,
          .printLine ("Created ".toList ++ file ++ " (".toList ++ Decimal.digits key.length
            ++ " problems)".toList)] }

end Grading
