/-
What a command does, as a list of actions that are done one after the other. The first action that
fails ends the run.

* `Action`: something that a run does;
* `Plan`: the actions of a run, and what is wrong in the end if anything is;
* `Plan.run`: what comes of a plan on a disk.
-/
import Grading.Answer.Event
import Grading.Command.Error
import Grading.Files.Disk
import Grading.Text.Control

namespace Grading

/-- Something that a run does. -/
inductive Action where
  /-- Give out a text. -/
  | print (text : Text)
  /-- Tell the user a line. -/
  | tell (line : Text)
  /-- Log an event. -/
  | log (level : Level) (message : Text)
  /-- Make a folder, and folders on the way there. -/
  | makeFolders (folder : Path)
  /-- Write a file, for a purpose if it is named when that fails. -/
  | write (purpose : Option Purpose) (file : Path) (text : Text)
deriving DecidableEq, Repr

namespace Action

/-- Gives out a line. -/
def printLine (line : Text) : Action := print (line ++ ['\n'])

/-- Why the action fails, given why the disk refuses it. -/
def failure : Action → FileError → CommandError
  | write (some purpose) file _, e => .noAccess purpose file e
  | _, e => .noPlace e

/-- What the action does to a disk, and why it fails if it does. -/
def onDisk : Action → Disk → Disk × Option FileError
  | makeFolders folder, d => d.makeFolders folder
  | write _ file text, d =>
    match d.write file text with
    | .ok d => (d, none)
    | .error e => (d, some e)
  | _, d => (d, none)

/-- The line that is logged of an event. -/
def logLine (level : Level) (message : Text) : Text := level.name ++ ' ' :: Text.shown message

end Action

/-- What a command does. -/
structure Plan where
  /-- The actions in order. -/
  actions : List Action := []
  /-- What is wrong after them, if anything is. -/
  error? : Option CommandError := none
deriving DecidableEq, Repr

namespace Plan

/-- The plan with other actions in front. -/
def after (first : List Action) (p : Plan) : Plan := { p with actions := first ++ p.actions }

/-- The plan that only tells what is wrong. -/
def fail (e : CommandError) : Plan := { error? := some e }

/-- The plan that is made from a value, or that tells why there is none. -/
def ofExcept {α : Type} (x : Except CommandError α) (plan : α → Plan) : Plan :=
  match x with
  | .ok a => plan a
  | .error e => fail e

end Plan

/-- What comes of a plan. -/
structure Run where
  /-- The disk after it. -/
  disk : Disk
  /-- The actions that were done. -/
  done : List Action
  /-- Why the command was not done, if it was not. -/
  error? : Option CommandError
deriving DecidableEq, Repr

namespace Run

/-- Does actions one after the other, up to the first that fails. -/
def ofActions (d : Disk) (atEnd : Option CommandError) : List Action → Run
  | [] => ⟨d, [], atEnd⟩
  | action :: actions =>
    match action.onDisk d with
    | (d, some e) => ⟨d, [], some (action.failure e)⟩
    | (d, none) =>
      let r := ofActions d atEnd actions
      { r with done := action :: r.done }

/-- What the run gave out. -/
def printed (r : Run) : Text :=
  r.done.flatMap fun
    | .print text => text
    | _ => []

/-- The lines that the user is told, the last of them why the command was not done. -/
def told (r : Run) : List Text :=
  (r.done.filterMap fun
    | .tell line => some line
    | _ => none) ++ (r.error?.map CommandError.line).toList

/-- What the run logged. -/
def logged (r : Run) : List Text :=
  r.done.filterMap fun
    | .log level message => some (Action.logLine level message)
    | _ => none

/-- The status with which the run ends. -/
def status (r : Run) : Nat := if r.error?.isSome then 1 else 0

end Run

/-- What comes of a plan on a disk. -/
def Plan.run (p : Plan) (d : Disk) : Run := .ofActions d p.error? p.actions

end Grading
