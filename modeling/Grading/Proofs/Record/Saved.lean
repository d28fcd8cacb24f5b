/-
Report files are read back.

* `Alternative.floats`, `Mark.floats`, `Report.floats`, `BatchRecord.floats`: the floating-point
  numbers of a record;
* `BatchRecord.times`: its times;
* `Alternative.mapFloats?`, `Mark.mapFloats?`, `Report.mapFloats?`, `BatchRecord.mapFloats?`: what
  becomes of a record when its numbers change, or are lost;
* `Alternative.ofJson?_toJson`, `Mark.ofJson?_toJson`, `ReportRecord.ofJson?_toJson`: each part of a
  record is read back from its value, but for what the reader makes of its numbers;
* `BatchRecord.load?_save`: what is loaded from a report file is what was saved;
* `BatchRecord.isSome_load?_save`: something is loaded exactly if all numbers are finite.
-/
import Grading.Proofs.Json.Decimals
import Grading.Proofs.Json.Fields
import Grading.Proofs.Record.Uuid
import Grading.Record.Json
import Mathlib

namespace Grading

open Json (Written RecordNames Fields text?_ofText reread)

variable {f : Float → Option Float}

/-! ### Alternatives -/

namespace Alternative

/-- The floating-point numbers of an alternative. -/
def floats (a : Alternative) : List Float := [a.ratio, a.low, a.high]

lemma recordNames : RecordNames fieldNames where
  plain := by decide
  nodup := by decide

/-- An alternative with its numbers changed, if none of them is lost. -/
def mapFloats? (f : Float → Option Float) (a : Alternative) : Option Alternative := do
  return { a with ratio := ← f a.ratio, low := ← f a.low, high := ← f a.high }

lemma isSome_mapFloats?_iff {a : Alternative} :
    (a.mapFloats? f).isSome = true ↔ ∀ x ∈ a.floats, (f x).isSome = true := by
  simp only [floats, List.forall_mem_cons, mapFloats?]
  cases f a.ratio <;> cases f a.low <;> cases f a.high <;> simp

lemma mapFloats?_eq_self {a : Alternative} (h : ∀ x ∈ a.floats, f x = some x) :
    a.mapFloats? f = some a := by
  simp only [floats, List.forall_mem_cons] at h
  simp only [mapFloats?, h, Option.bind_eq_bind, Option.bind_some]
  rfl

lemma written_toJson (a : Alternative) : Written a.toJson := by
  refine recordNames.written_ofFields rfl ?_
  simp only [List.forall_mem_cons]
  exact ⟨.string _, .bool _, Json.written_ofFloat _, Json.written_ofFloat _,
    Json.written_ofFloat _, .bool _, .string _, List.forall_mem_nil _⟩

lemma ofJson?_toJson (a : Alternative) : ofJson? a.toJson = a.mapFloats? reread := by
  refine recordNames.bind_fields? rfl fun found hfound => ?_
  simp only [List.forall_mem_cons] at hfound
  simp only [Fields.needed, Fields.defaulted, hfound, Option.bind_eq_bind, Option.bind_some,
    Json.bool?, text?_ofText]
  rfl

end Alternative

/-! ### Marks -/

namespace Verdict

/-- A verdict is read back from its word. -/
lemma ofJson?_ofText (v : Verdict) : ofJson? (Json.ofText v.word) = some v := by
  cases v <;> rfl

end Verdict

namespace Mark

/-- The floating-point numbers of a mark. -/
def floats (m : Mark) : List Float :=
  m.points :: m.maxPoints :: m.matched.toList.flatMap Alternative.floats

lemma recordNames : RecordNames fieldNames where
  plain := by decide
  nodup := by decide

lemma forall_mem_floats_iff {m : Mark} {P : Float → Prop} :
    (∀ x ∈ m.floats, P x)
      ↔ P m.points ∧ P m.maxPoints ∧ ∀ a, m.matched = some a → ∀ x ∈ a.floats, P x := by
  simp only [floats, List.forall_mem_cons]
  cases m.matched <;> simp

/-- A mark with its numbers changed, if none of them is lost. -/
def mapFloats? (f : Float → Option Float) (m : Mark) : Option Mark := do
  return { m with
    points := ← f m.points, maxPoints := ← f m.maxPoints,
    matched := ← m.matched.mapM (Alternative.mapFloats? f) }

lemma isSome_mapFloats?_iff {m : Mark} :
    (m.mapFloats? f).isSome = true ↔ ∀ x ∈ m.floats, (f x).isSome = true := by
  have hmatched : (m.matched.mapM (Alternative.mapFloats? f)).isSome = true
      ↔ ∀ a, m.matched = some a → ∀ x ∈ a.floats, (f x).isSome = true := by
    cases m.matched with
    | none => simp
    | some a => simp [Alternative.isSome_mapFloats?_iff]
  rw [forall_mem_floats_iff, ← hmatched, mapFloats?]
  cases f m.points <;> cases f m.maxPoints <;>
    cases m.matched.mapM (Alternative.mapFloats? f) <;> simp

lemma mapFloats?_eq_self {m : Mark} (h : ∀ x ∈ m.floats, f x = some x) :
    m.mapFloats? f = some m := by
  obtain ⟨hpoints, hmax, hmatched⟩ := forall_mem_floats_iff.mp h
  have hoption : m.matched.mapM (Alternative.mapFloats? f) = some m.matched := by
    cases hm : m.matched with
    | none => rfl
    | some a => simp [Alternative.mapFloats?_eq_self (hmatched a hm)]
  simp only [mapFloats?, hpoints, hmax, hoption, Option.bind_eq_bind, Option.bind_some]
  rfl

lemma written_toJson (m : Mark) : Written m.toJson := by
  refine recordNames.written_ofFields rfl ?_
  simp only [List.forall_mem_cons]
  exact ⟨.string _, Json.written_ofFloat _, Json.written_ofFloat _, .string _,
    Json.written_ofOption fun a _ => a.written_toJson,
    Json.written_ofOption fun _ _ => .string _, .string _,
    Json.written_array fun _ _ => .string _, List.forall_mem_nil _⟩

lemma ofJson?_toJson (m : Mark) : ofJson? m.toJson = m.mapFloats? reread := by
  refine recordNames.bind_fields? rfl fun found hfound => ?_
  simp only [List.forall_mem_cons] at hfound
  obtain ⟨hstatus, hpoints, hmax, hanswer, hmatched, hsolution, hfeedback, hdiagnostics, -⟩ :=
    hfound
  have hoption : found.optional "matched_alternative" Alternative.ofJson?
      = m.matched.mapM (Alternative.mapFloats? reread) := by
    rw [Json.optional_ofOption hmatched fun _ => Json.noConfusion]
    simp only [Alternative.ofJson?_toJson]
  have hcanonical : found.optional "canonical_answer" Json.text? = some m.solution := by
    rw [Json.optional_ofOption hsolution fun _ => Json.noConfusion]
    cases m.solution <;> simp [text?_ofText]
  have hlist :
      Json.list? Json.text? (.array (m.diagnostics.map Json.ofText)) = some m.diagnostics := by
    rw [Json.list?_array]
    exact Json.mapM_eq_self fun s _ => text?_ofText s
  simp only [Fields.needed, Fields.defaulted, hstatus, hpoints, hmax, hanswer, hoption,
    hcanonical, hfeedback, hdiagnostics, hlist, Option.bind_eq_bind, Option.bind_some,
    Verdict.ofJson?_ofText, text?_ofText]
  rfl

end Mark

/-! ### Marked problems -/

namespace ProblemMark

lemma recordNames : RecordNames fieldNames where
  plain := by decide
  nodup := by decide

/-- A marked problem with its numbers changed, if none of them is lost. -/
def mapFloats? (f : Float → Option Float) (p : ProblemMark) : Option ProblemMark := do
  return { p with mark := ← p.mark.mapFloats? f }

lemma isSome_mapFloats?_iff {p : ProblemMark} :
    (p.mapFloats? f).isSome = true ↔ ∀ x ∈ p.mark.floats, (f x).isSome = true := by
  rw [← Mark.isSome_mapFloats?_iff, mapFloats?]
  cases p.mark.mapFloats? f <;> simp

lemma mapFloats?_eq_self {p : ProblemMark} (h : ∀ x ∈ p.mark.floats, f x = some x) :
    p.mapFloats? f = some p := by
  rw [mapFloats?, Mark.mapFloats?_eq_self h]
  rfl

lemma written_toJson (p : ProblemMark) : Written p.toJson := by
  refine recordNames.written_ofFields rfl ?_
  simp only [List.forall_mem_cons]
  exact ⟨.string _, .bool _, p.mark.written_toJson, List.forall_mem_nil _⟩

lemma ofJson?_toJson (p : ProblemMark) : ofJson? p.toJson = p.mapFloats? reread := by
  refine recordNames.bind_fields? rfl fun found hfound => ?_
  simp only [List.forall_mem_cons] at hfound
  simp only [Fields.needed, hfound, Option.bind_eq_bind, Option.bind_some, Json.bool?,
    text?_ofText, Mark.ofJson?_toJson]
  rfl

end ProblemMark

/-! ### Reports -/

/-- The floating-point numbers of a report. -/
def Report.floats (r : Report) : List Float :=
  r.total :: r.maxPoints :: r.problems.flatMap fun p => p.mark.floats

lemma Report.forall_mem_floats_iff {r : Report} {P : Float → Prop} :
    (∀ x ∈ r.floats, P x)
      ↔ P r.total ∧ P r.maxPoints ∧ ∀ p ∈ r.problems, ∀ x ∈ p.mark.floats, P x := by
  simp only [floats, List.forall_mem_cons, List.forall_mem_flatMap]

/-- A report with its numbers changed, if none of them is lost. -/
def Report.mapFloats? (f : Float → Option Float) (r : Report) : Option Report := do
  return { r with
    problems := ← r.problems.mapM (ProblemMark.mapFloats? f),
    total := ← f r.total, maxPoints := ← f r.maxPoints }

lemma Report.isSome_mapFloats?_iff {r : Report} :
    (r.mapFloats? f).isSome = true ↔ ∀ x ∈ r.floats, (f x).isSome = true := by
  have hproblems : (r.problems.mapM (ProblemMark.mapFloats? f)).isSome = true
      ↔ ∀ p ∈ r.problems, ∀ x ∈ p.mark.floats, (f x).isSome = true := by
    simp only [Json.isSome_mapM_iff, ProblemMark.isSome_mapFloats?_iff]
  rw [forall_mem_floats_iff, ← hproblems, mapFloats?]
  cases r.problems.mapM (ProblemMark.mapFloats? f) <;> cases f r.total <;>
    cases f r.maxPoints <;> simp

lemma Report.mapFloats?_eq_self {r : Report} (h : ∀ x ∈ r.floats, f x = some x) :
    r.mapFloats? f = some r := by
  obtain ⟨htotal, hmax, hproblems⟩ := forall_mem_floats_iff.mp h
  have hlist : r.problems.mapM (ProblemMark.mapFloats? f) = some r.problems :=
    Json.mapM_eq_self fun p hp => ProblemMark.mapFloats?_eq_self (hproblems p hp)
  simp only [mapFloats?, htotal, hmax, hlist, Option.bind_eq_bind, Option.bind_some]
  rfl

/-- A stamp is read back from among the fields of a record. -/
lemma Stamp.ofFields?_eq {found : Fields} {stamp : Stamp}
    (hid : found.lookup "id".toList = some (Json.ofText stamp.id.render))
    (htime : found.lookup "created_at".toList = some (Json.ofText stamp.time.render))
    (h : Instant.ofText? stamp.time.render = some stamp.time) :
    ofFields? found = some stamp := by
  simp only [ofFields?, Fields.needed, hid, htime, Uuid.ofJson?, Instant.ofJson?, text?_ofText,
    Option.bind_eq_bind, Option.bind_some, Uuid.ofText?_render, h]
  rfl

namespace ReportRecord

lemma recordNames : RecordNames fieldNames where
  plain := by decide
  nodup := by decide

/-- A report with its numbers changed and its stamp kept, if none of them is lost. -/
def mapFloats? (f : Float → Option Float) (r : ReportRecord) : Option ReportRecord := do
  return { r with report := ← r.report.mapFloats? f }

lemma isSome_mapFloats?_iff {r : ReportRecord} :
    (r.mapFloats? f).isSome = true ↔ ∀ x ∈ r.report.floats, (f x).isSome = true := by
  rw [← Report.isSome_mapFloats?_iff, mapFloats?]
  cases r.report.mapFloats? f <;> simp

lemma mapFloats?_eq_self {r : ReportRecord} (h : ∀ x ∈ r.report.floats, f x = some x) :
    r.mapFloats? f = some r := by
  rw [mapFloats?, Report.mapFloats?_eq_self h]
  rfl

lemma written_toJson (r : ReportRecord) : Written r.toJson := by
  refine recordNames.written_ofFields rfl ?_
  simp only [List.forall_mem_cons]
  exact ⟨.string _, .string _, .string _, Json.written_array fun p _ => p.written_toJson,
    Json.written_ofFloat _, Json.written_ofFloat _, List.forall_mem_nil _⟩

lemma ofJson?_toJson {r : ReportRecord}
    (htime : Instant.ofText? r.stamp.time.render = some r.stamp.time) :
    ofJson? r.toJson = r.mapFloats? reread := by
  refine recordNames.bind_fields? rfl fun found hfound => ?_
  simp only [List.forall_mem_cons] at hfound
  have hstamp := Stamp.ofFields?_eq hfound.1 hfound.2.1 htime
  have hlist : Json.list? ProblemMark.ofJson? (.array (r.report.problems.map ProblemMark.toJson))
      = r.report.problems.mapM (ProblemMark.mapFloats? reread) := by
    rw [Json.list?_array]
    simp only [ProblemMark.ofJson?_toJson]
  simp only [hstamp, Fields.needed, hfound, hlist, Option.bind_eq_bind, Option.bind_some,
    text?_ofText, mapFloats?, Report.mapFloats?, Option.bind_assoc]
  rfl

end ReportRecord

/-! ### Failures -/

namespace Failure

lemma recordNames : RecordNames fieldNames where
  plain := by decide
  nodup := by decide

lemma written_toJson (f : Failure) : Written f.toJson := by
  refine recordNames.written_ofFields rfl ?_
  simp only [List.forall_mem_cons]
  exact ⟨.string _, .string _, List.forall_mem_nil _⟩

lemma ofJson?_toJson (f : Failure) : ofJson? f.toJson = some f := by
  refine recordNames.bind_fields? rfl fun found hfound => ?_
  simp only [List.forall_mem_cons] at hfound
  simp only [Fields.needed, hfound, Option.bind_eq_bind, Option.bind_some, text?_ofText]
  rfl

end Failure

/-! ### Batches -/

namespace BatchRecord

/-- The floating-point numbers of a batch. -/
def floats (b : BatchRecord) : List Float := b.graded.flatMap fun r => r.report.floats

/-- The times of a batch and of its reports. -/
def times (b : BatchRecord) : List Instant := b.stamp.time :: b.graded.map fun r => r.stamp.time

lemma recordNames : RecordNames fieldNames where
  plain := by decide
  nodup := by decide

/-- A batch with its numbers changed, if none of them is lost. -/
def mapFloats? (f : Float → Option Float) (b : BatchRecord) : Option BatchRecord := do
  return { b with graded := ← b.graded.mapM (ReportRecord.mapFloats? f) }

lemma isSome_mapFloats?_iff {b : BatchRecord} :
    (b.mapFloats? f).isSome = true ↔ ∀ x ∈ b.floats, (f x).isSome = true := by
  have hgraded : (b.graded.mapM (ReportRecord.mapFloats? f)).isSome = true
      ↔ ∀ x ∈ b.floats, (f x).isSome = true := by
    simp only [Json.isSome_mapM_iff, ReportRecord.isSome_mapFloats?_iff, floats,
      List.forall_mem_flatMap]
  rw [← hgraded, mapFloats?]
  cases b.graded.mapM (ReportRecord.mapFloats? f) <;> simp

lemma mapFloats?_eq_self {b : BatchRecord} (h : ∀ x ∈ b.floats, f x = some x) :
    b.mapFloats? f = some b := by
  rw [floats, List.forall_mem_flatMap] at h
  have hgraded : b.graded.mapM (ReportRecord.mapFloats? f) = some b.graded :=
    Json.mapM_eq_self fun r hr => ReportRecord.mapFloats?_eq_self (h r hr)
  rw [mapFloats?, hgraded]
  rfl

lemma written_toJson (b : BatchRecord) : Written b.toJson := by
  refine recordNames.written_ofFields rfl ?_
  simp only [List.forall_mem_cons]
  exact ⟨.string _, .string _, .string _, Json.written_array fun r _ => r.written_toJson,
    Json.written_array fun f _ => f.written_toJson, Json.written_ofWord _,
    List.forall_mem_nil _⟩

lemma ofJson?_toJson {b : BatchRecord}
    (htimes : ∀ t ∈ b.times, Instant.ofText? t.render = some t) :
    ofJson? b.toJson = b.mapFloats? reread := by
  rw [times, List.forall_mem_cons, List.forall_mem_map] at htimes
  refine recordNames.bind_fields? rfl fun found hfound => ?_
  simp only [List.forall_mem_cons] at hfound
  have hstamp := Stamp.ofFields?_eq hfound.1 hfound.2.1 htimes.1
  have hgraded : Json.list? ReportRecord.ofJson? (.array (b.graded.map ReportRecord.toJson))
      = b.graded.mapM (ReportRecord.mapFloats? reread) := by
    rw [Json.list?_array]
    exact Json.mapM_congr fun r hr => ReportRecord.ofJson?_toJson (htimes.2 r hr)
  have hfailures : Json.list? Failure.ofJson? (.array (b.failures.map Failure.toJson))
      = some b.failures := by
    rw [Json.list?_array]
    exact Json.mapM_eq_self fun f _ => f.ofJson?_toJson
  simp only [hstamp, Fields.needed, hfound, hgraded, hfailures, Option.bind_eq_bind,
    Option.bind_some, text?_ofText, Json.word?_ofWord]
  rfl

/-- What is loaded is what was saved, but for what the reader makes of the numbers. -/
lemma load?_save_eq {b : BatchRecord}
    (htimes : ∀ t ∈ b.times, Instant.ofText? t.render = some t) :
    load? b.save = b.mapFloats? reread := by
  rw [load?, save, Json.read?_render b.written_toJson, Option.bind_some, ofJson?_toJson htimes]

/-- Something is loaded exactly if all numbers are finite. -/
lemma isSome_load?_save {b : BatchRecord}
    (htimes : ∀ t ∈ b.times, Instant.ofText? t.render = some t) :
    (load? b.save).isSome = true ↔ ∀ x ∈ b.floats, x.isFinite = true := by
  simp only [load?_save_eq htimes, isSome_mapFloats?_iff, Json.isSome_reread]

/-- **Report files are read back**: a record whose floating-point numbers are finite is loaded as it
was saved, provided that the reader gives back its numbers and its times from what is written of
them. -/
theorem load?_save (b : BatchRecord) (hfinite : ∀ x ∈ b.floats, x.isFinite = true)
    (hfloats : ∀ x ∈ b.floats,
      (Json.splitNumeric? (Decimal.portable.render x)).bind Json.Spelled.toFloat? = some x)
    (htimes : ∀ t ∈ b.times, Instant.ofText? t.render = some t) :
    load? b.save = some b := by
  have hreads : ∀ x ∈ b.floats, reread x = some x := fun x hx =>
    Json.reread_eq_self ⟨hfinite x hx, hfloats x hx⟩
  rw [load?_save_eq htimes, mapFloats?_eq_self hreads]

end BatchRecord

/-! ### Points of zero and of one -/

namespace Decimal

lemma scale_one : Binary.scale ⟨2 ^ 52, -52⟩ = 1 := by
  have hunits : (Binary.inUnits ⟨2 ^ 52, -52⟩ (-400)).1 / (Binary.inUnits ⟨2 ^ 52, -52⟩ (-400)).2
      = 10 ^ 400 := by
    decide +kernel
  simp only [Binary.scale]
  rw [hunits, length_digits_ten_pow]
  rfl

lemma shortest_one : Binary.shortest .toEven ⟨2 ^ 52, -52⟩ = ⟨1, 0⟩ := by
  simp only [Binary.shortest, scale_one]
  rfl

lemma render_one : portable.render 1 = "1.0".toList := by
  have hone : (1 : Float).toModel.unpack = .finite .positive (2 ^ 52) (-52) (by decide) := rfl
  have hdrop : dropZeros ⟨1, 0⟩ = ⟨1, 0⟩ := by
    rw [dropZeros, dif_neg (by decide)]
  have hdigits : digits 1 = ['1'] := digits_of_lt (by decide)
  rw [Notation.render, hone]
  simp only [portable, shortest_one, hdrop, Notation.layout, hdigits]
  rfl

end Decimal

namespace Json

lemma scaled?_tenth (x : Float) : scaled? x (-1) = some (x / 10) := by
  have hpower : power (-1 : Int).natAbs = 10 := by decide +kernel
  rw [scaled?, dif_pos (by decide), if_neg (by decide), hpower]

lemma floatReadsBack_zero : FloatReadsBack 0 where
  finite := by decide
  read := by
    change (scaled? (Float.ofNat 0) (-1)).map (fun x => x) = some 0
    rw [scaled?_tenth]
    rfl

lemma floatReadsBack_one : FloatReadsBack 1 where
  finite := by decide
  read := by
    rw [Decimal.render_one]
    change (scaled? (Float.ofNat 10) (-1)).map (fun x => x) = some 1
    rw [scaled?_tenth]
    rfl

end Json

/-- A record with a mark that matches an alternative, without a solution, with texts that have to be
escaped, and with a failure. -/
theorem BatchRecord.load?_save_matched :
    let stamp : Stamp := ⟨.nil, ⟨0, 0⟩⟩
    let a : Alternative := ⟨"x".toList, false, 1, 0, 0, false, "good".toList⟩
    let mark : Mark := ⟨.correct, 1, 1, "x".toList, some a, none, "a\nb".toList, ["\\".toList]⟩
    let report : Report := ⟨"Ada \"A\"".toList, [⟨"1".toList, true, mark⟩], 1, 1⟩
    let b : BatchRecord :=
      ⟨stamp, "Week 1".toList, [⟨stamp, report⟩], [⟨"Bob".toList, "blank".toList⟩], 12⟩
    (∀ x ∈ b.floats, x.isFinite = true) ∧ load? b.save = some b := by
  intro stamp a mark report b
  have hreads : ∀ x ∈ b.floats, Json.FloatReadsBack x := by
    have hcases : ∀ x ∈ b.floats, x = 1 ∨ x = 0 := by
      have hfloats : b.floats = [1, 1, 1, 1, 1, 0, 0] := rfl
      simp [hfloats]
    intro x hx
    rcases hcases x hx with rfl | rfl
    · exact Json.floatReadsBack_one
    · exact Json.floatReadsBack_zero
  have htimes : ∀ t ∈ b.times, Instant.ofText? t.render = some t := by
    have hstart : Instant.ofText? (⟨0, 0⟩ : Instant).render = some ⟨0, 0⟩ := by cbv
    intro t ht
    have hepoch : t = ⟨0, 0⟩ := by simpa [b, stamp, times] using ht
    rw [hepoch, hstart]
  have hfinite : ∀ x ∈ b.floats, x.isFinite = true := fun x hx => (hreads x hx).finite
  exact ⟨hfinite, load?_save b hfinite (fun x hx => (hreads x hx).read) htimes⟩

end Grading
