/-
Which outcomes of a run are read back from their report files.

* `Mark.Sound.isFinite_floats_iff`, `Report.isFinite_floats_iff`: what keeps the numbers of a mark
  and of a report from being finite;
* `BatchRecord.load?_save_ofBatch_iff`: a report file is read back exactly if its numbers are
  finite, and that they are exactly if the points of the whole key and the tolerances of all
  alternatives that were matched are;
* `BatchRecord.load?_save_endless_range`: a tolerance with hundreds of digits makes a report file
  that cannot be read.
-/
import Grading.Proofs.Batch.Collected
import Grading.Proofs.Record.Saved
import Grading.Proofs.Submission.Points

namespace Grading

open Decimal (powerOfTen)

variable {settings : Settings} {rules : Rules} {key : Key} {s : Submission} {m : Mark}
  {report : Report}

/-! ### Marks and reports -/

/-- Whether all tolerances that a key tells are finite. -/
def Key.HasFiniteRanges (key : Key) : Prop :=
  ∀ line ∈ key, ∀ p, Problem.ofKeyLine line = .ok p →
    ∀ a ∈ p.alternatives, a.low.isFinite = true ∧ a.high.isFinite = true

/-- Only the tolerance of the alternative that is matched may be infinite. -/
lemma Mark.Sound.isFinite_floats_iff (hvalue : Within rules.pointValue rules.pointValue)
    (h : m.Sound rules key) :
    (∀ x ∈ m.floats, x.isFinite = true)
      ↔ ∀ a, m.matched = some a → a.low.isFinite = true ∧ a.high.isFinite = true := by
  rw [Mark.forall_mem_floats_iff, h.maxPoints_eq, and_iff_right h.points.isFinite,
    and_iff_right hvalue.isFinite]
  refine forall₂_congr fun a ha => ?_
  obtain ⟨line, -, p, hp, hmem⟩ := h.matched a ha
  rw [Alternative.floats, List.forall_mem_cons, List.forall_mem_cons, List.forall_mem_singleton,
    and_iff_right (within_ratio hp hmem).isFinite]

/-- In a report, it may be that or the points of the whole key. -/
lemma Report.isFinite_floats_iff (hvalue : Within rules.pointValue rules.pointValue)
    (h : s.grade rules key = .ok report) :
    (∀ x ∈ report.floats, x.isFinite = true)
      ↔ (sum (List.replicate key.length rules.pointValue)).isFinite = true
        ∧ ∀ p ∈ report.problems, ∀ a, p.mark.matched = some a →
            a.low.isFinite = true ∧ a.high.isFinite = true := by
  obtain ⟨hmax, htotal, hsound⟩ := sums_of_grade hvalue h
  have hmarks : (∀ p ∈ report.problems, ∀ x ∈ p.mark.floats, x.isFinite = true)
      ↔ ∀ p ∈ report.problems, ∀ a, p.mark.matched = some a →
          a.low.isFinite = true ∧ a.high.isFinite = true :=
    forall₂_congr fun p hp => (hsound p hp).isFinite_floats_iff hvalue
  rw [Report.forall_mem_floats_iff, hmarks, ← hmax]
  exact ⟨fun h => h.2, fun h => ⟨(htotal h.1).isFinite, h⟩⟩

/-! ### Batches -/

namespace BatchRecord

variable {assignment : Text} {submissions : List Submission} {stamp : Stamp} {stamps : List Stamp}
  {duration : UInt64} {b : Batch}

/-- A record has the reports of the outcome. -/
lemma map_report_ofBatch (stamp : Stamp) (stamps : List Stamp) (duration : UInt64) (b : Batch) :
    (ofBatch stamp stamps duration b).graded.map ReportRecord.report = b.graded := by
  refine List.ext_getElem (by simp [ofBatch]) fun i h₁ h₂ => ?_
  simp [ofBatch]

lemma floats_ofBatch :
    (ofBatch stamp stamps duration b).floats = b.graded.flatMap Report.floats := by
  rw [← map_report_ofBatch stamp stamps duration b, List.flatMap_map]
  rfl

/-- In a record, it may be the points of the whole key or the tolerances that were matched. -/
lemma isFinite_floats_ofBatch_iff (hvalue : Within rules.pointValue rules.pointValue) :
    (∀ x ∈ (ofBatch stamp stamps duration
        (Batch.grade rules assignment key submissions)).floats, x.isFinite = true)
      ↔ ∀ report ∈ (Batch.grade rules assignment key submissions).graded,
          (sum (List.replicate key.length rules.pointValue)).isFinite = true
            ∧ ∀ p ∈ report.problems, ∀ a, p.mark.matched = some a →
                a.low.isFinite = true ∧ a.high.isFinite = true := by
  rw [floats_ofBatch, List.forall_mem_flatMap]
  refine forall₂_congr fun report hreport => ?_
  obtain ⟨s, -, hs⟩ := Batch.settles_grade.mem_graded_iff.mp hreport
  exact Report.isFinite_floats_iff hvalue hs

/-- The tolerances that were matched are some of those that the key tells. -/
lemma isFinite_of_hasFiniteRanges (hvalue : Within rules.pointValue rules.pointValue)
    (h : key.HasFiniteRanges)
    (hreport : report ∈ (Batch.grade rules assignment key submissions).graded) :
    ∀ p ∈ report.problems, ∀ a, p.mark.matched = some a →
      a.low.isFinite = true ∧ a.high.isFinite = true := by
  intro p hp a ha
  obtain ⟨s, -, hs⟩ := Batch.settles_grade.mem_graded_iff.mp hreport
  obtain ⟨-, -, hsound⟩ := sums_of_grade hvalue hs
  obtain ⟨line, hline, problem, hproblem, hmem⟩ := (hsound p hp).matched a ha
  exact h line hline problem hproblem a hmem

/-- The times of a record are those that it is stamped with. -/
lemma ofText?_of_mem_times
    (h : ∀ t ∈ stamp :: stamps, Instant.ofText? t.time.render = some t.time) :
    ∀ t ∈ (ofBatch stamp stamps duration b).times, Instant.ofText? t.render = some t := by
  have hmem : ∀ i, stamps.getD i stamp ∈ stamp :: stamps := by
    intro i
    rw [List.getD_eq_getElem?_getD]
    cases hi : stamps[i]? with
    | none => exact List.mem_cons_self
    | some t => exact List.mem_cons_of_mem _ (List.mem_of_getElem? hi)
  rw [times, List.forall_mem_cons, List.forall_mem_map]
  refine ⟨h stamp List.mem_cons_self, fun r hr => ?_⟩
  obtain ⟨i, -, rfl⟩ := List.mem_mapIdx.mp hr
  exact h _ (hmem i)

/-- **Which report files are read back**: under settings that can be used, the numbers of the
outcome are finite exactly if each report has a finite sum of the points of all problems of the key,
and finite tolerances in all alternatives that its answers match. The report file is read back
exactly if they are. So it surely is if that sum is finite and the key tells of finite tolerances
only. -/
theorem load?_save_ofBatch_iff (hvalid : settings.invalid? = none) (assignment : Text) (key : Key)
    (submissions : List Submission) (stamp : Stamp) (stamps : List Stamp) (duration : UInt64)
    (htimes : ∀ t ∈ stamp :: stamps, Instant.ofText? t.time.render = some t.time) :
    let fullPoints := sum (List.replicate key.length settings.rules.pointValue)
    let b := Batch.grade settings.rules assignment key submissions
    let record := ofBatch stamp stamps duration b
    ((∀ x ∈ record.floats, x.isFinite = true)
      ↔ ∀ report ∈ b.graded, fullPoints.isFinite = true
          ∧ ∀ p ∈ report.problems, ∀ a, p.mark.matched = some a →
              a.low.isFinite = true ∧ a.high.isFinite = true)
      ∧ ((load? record.save).isSome = true ↔ ∀ x ∈ record.floats, x.isFinite = true)
      ∧ (fullPoints.isFinite = true → key.HasFiniteRanges → (load? record.save).isSome = true) := by
  intro fullPoints b record
  have hvalue := within_pointValue hvalid
  have hfloats : (∀ x ∈ record.floats, x.isFinite = true) ↔ _ := isFinite_floats_ofBatch_iff hvalue
  have hload : (load? record.save).isSome = true ↔ ∀ x ∈ record.floats, x.isFinite = true :=
    isSome_load?_save (ofText?_of_mem_times htimes)
  refine ⟨hfloats, hload, fun hpoints hranges => hload.mpr (hfloats.mpr fun report hreport => ?_)⟩
  exact ⟨hpoints, isFinite_of_hasFiniteRanges hvalue hranges hreport⟩

lemma ofText?_render_epoch : Instant.ofText? (⟨0, 0⟩ : Instant).render = some ⟨0, 0⟩ := by
  decide +kernel

/-- Points close to the greatest number: two of them are too many, so that what is saved cannot be
loaded. -/
theorem load?_save_two_huge_problems :
    let settings : Settings := { rules := { pointValue := 1e308 } }
    let key := Key.ofText "1. a\n2. b".toList
    let b := Batch.grade settings.rules "Week 1".toList key [⟨"Alice".toList, "1. a".toList⟩]
    let record := ofBatch ⟨.nil, ⟨0, 0⟩⟩ [] 12 b
    settings.invalid? = none ∧ b.graded ≠ [] ∧ load? record.save = none := by
  intro settings key b record
  have hvalid : settings.invalid? = none := by decide +kernel
  have hgraded : b.graded.length = 1 := by decide +kernel
  have hne : b.graded ≠ [] := List.ne_nil_of_length_eq_add_one hgraded
  have htimes : ∀ t ∈ [(⟨.nil, ⟨0, 0⟩⟩ : Stamp)], Instant.ofText? t.time.render = some t.time :=
    List.forall_mem_singleton.mpr ofText?_render_epoch
  obtain ⟨hfinite, hload, -⟩ := load?_save_ofBatch_iff hvalid "Week 1".toList key
    [⟨"Alice".toList, "1. a".toList⟩] ⟨.nil, ⟨0, 0⟩⟩ [] 12 htimes
  refine ⟨hvalid, hne, Option.not_isSome_iff_eq_none.mp fun hsome => ?_⟩
  obtain ⟨report, hreport⟩ := List.exists_mem_of_ne_nil _ hne
  have hsum := (hfinite.mp (hload.mp hsome) report hreport).1
  exact absurd hsum (by decide +kernel)

/-- A tolerance with hundreds of digits is infinite, and if an answer matches it, then what is saved
cannot be loaded. -/
theorem load?_save_endless_range :
    let settings : Settings := {}
    let key := Key.ofText ("1. x; range ".toList ++ powerOfTen 310)
    let b := Batch.grade settings.rules "Week 1".toList key [⟨"Alice".toList, "1. x".toList⟩]
    let record := ofBatch ⟨.nil, ⟨0, 0⟩⟩ [] 12 b
    settings.invalid? = none ∧ (∃ x ∈ record.floats, x.isFinite = false)
      ∧ load? record.save = none := by
  intro settings key b record
  have hinfinite : ∃ x ∈ record.floats, x.isFinite = false := by
    have hany : record.floats.any (fun x => !x.isFinite) = true := by decide +kernel
    obtain ⟨x, hx, hinfinite⟩ := List.any_eq_true.mp hany
    exact ⟨x, hx, by simpa using hinfinite⟩
  have htimes : ∀ t ∈ record.times, Instant.ofText? t.render = some t :=
    ofText?_of_mem_times (List.forall_mem_singleton.mpr ofText?_render_epoch)
  refine ⟨by decide +kernel, hinfinite, Option.not_isSome_iff_eq_none.mp fun hsome => ?_⟩
  obtain ⟨x, hx, hfalse⟩ := hinfinite
  rw [(isSome_load?_save htimes).mp hsome x hx] at hfalse
  cases hfalse

end BatchRecord

end Grading
