/-
Grading the submissions in some files against the key in another.

* `assignmentName`: the name of the assignment, from that of the file with the key;
* `ReportFormat.readList`: the formats in which the outcome is kept;
* `HandIn`, `gather`: the submissions that are graded, and why others are not;
* `scoreTable`: the table of the scores;
* `gradeName`, `reportName`: the names of the files that are written;
* `gradePlan`: what the command does.
-/
import Grading.Command.Basic
import Grading.Command.Plan
import Grading.Command.Setting
import Grading.Page.Basic
import Grading.Record.Json
import Grading.Text.Table

namespace Grading

/-- The name of the assignment whose key is in a file. -/
def assignmentName (solution : Path) : Text :=
  let stem := solution.stem?.getD []
  ("Solutions_".toList.isPrefixOf? stem).getD stem

/-! ### Formats of reports -/

/-- A format in which the outcome of a batch is kept. -/
inductive ReportFormat where
  /-- Data for other programs. -/
  | json
  /-- A page for readers. -/
  | html
deriving DecidableEq, Repr

namespace ReportFormat

/-- The name of the format, with which files of the format end. -/
def name : ReportFormat → Text
  | json => "json".toList
  | html => "html".toList

/-- Reads the name of a format. -/
def read (s : Text) : Except CommandError ReportFormat :=
  if s = json.name then .ok json
  else if s = html.name then .ok html
  else .error (.unknownFormat s)

/-- Reads a list of formats, with commas between them. The word `all` stands for all of them. -/
def readList : Option Text → Except CommandError (List ReportFormat)
  | none => .ok []
  | some s =>
    if s = "all".toList then .ok [json, html] else (s.pieces ',').mapM fun piece => read piece.trim

/-- The outcome of a batch in the format. -/
def text : ReportFormat → BatchRecord → Text
  | json, r => r.save
  | html, r => r.pageText

/-- What a file of the format is written for, if that is told when it fails. -/
def purpose : ReportFormat → Option Purpose
  | json => some .writeReport
  | html => none

/-- How the user is told where a file of the format is. -/
def notice : ReportFormat → Text
  | json => "Results saved to: ".toList
  | html => "HTML report: ".toList

end ReportFormat

/-! ### The submissions -/

/-- A submission, and the name of its file without the extension. -/
structure HandIn where
  /-- The submission. -/
  submission : Submission
  /-- The name of the file without its extension. -/
  stem : Text
deriving DecidableEq, Repr

/-- Reads the file of a submission. -/
def HandIn.read (files : Files) (file : Path) : Except FileError HandIn := do
  let student := studentName file
  return ⟨⟨student, ← files file⟩, file.stem?.getD student⟩

/-- Why a file with a submission is left out. -/
inductive Omission where
  /-- It is the file with the key. -/
  | isKey (file : Path)
  /-- It cannot be read. -/
  | unreadable (file : Path) (error : FileError)
  /-- There is a submission of the student already. -/
  | repeated (file : Path) (student : Text)
deriving DecidableEq, Repr

/-- How the omission is told. -/
def Omission.message : Omission → Text
  | isKey file => "skipping answer key passed as a student file: ".toList ++ file
  | unreadable file error =>
    "skipping ".toList ++ file ++ ": failed to read submission: ".toList ++ file ++ ": ".toList
      ++ error.message
  | repeated file student =>
    "skipping ".toList ++ file ++ ": another file already belongs to ".toList ++ student

/-- The submission in a file, unless it is left out when there are others already. -/
def takeFile (files : Files) (solution : Path) (others : List HandIn) (file : Path) :
    Except Omission HandIn :=
  if Path.same file solution then .error (.isKey file)
  else
    match HandIn.read files file with
    | .error e => .error (.unreadable file e)
    | .ok h =>
      if others.any fun a => a.submission.student = h.submission.student then
        .error (.repeated file h.submission.student)
      else .ok h

/-- The submissions in some files, after those that are there already, and the omissions. -/
def gather (files : Files) (solution : Path) (before : List HandIn) :
    List Path → List HandIn × List Omission
  | [] => (before, [])
  | file :: rest =>
    match takeFile files solution before file with
    | .ok h => gather files solution (before ++ [h]) rest
    | .error o =>
      let (all, omissions) := gather files solution before rest
      (all, o :: omissions)

/-- The name for the grade file of a student. -/
def gradeStem (handIns : List HandIn) (student : Text) : Text :=
  match handIns.find? fun h => h.submission.student = student with
  | some h => h.stem
  | none => student

/-! ### What the user sees -/

/-- The row of a graded submission in the table of the scores. -/
def scoreRow (r : Report) : List Text :=
  [r.student, r.score, percent r.percentage, Decimal.digits (r.count .correct),
   Decimal.digits (r.count .partialCredit), Decimal.digits (r.count .incorrect)]

/-- The row of a submission that could not be graded. -/
def failureRow (f : Failure) : List Text :=
  f.student :: "ERROR".toList :: List.replicate 4 ['-']

/-- The table of the scores. -/
def scoreTable (b : Batch) : Text :=
  Text.table
    (["Student", "Score", "Percent", "Correct", "Partial", "Incorrect"].map String.toList)
    (b.graded.map scoreRow ++ b.failures.map failureRow)

/-- The line that tells what is graded. -/
def openingLine (submissions problems : Nat) (assignment : Text) : Text :=
  "answerkey v".toList ++ versionName ++ ": grading ".toList ++ Decimal.digits submissions
    ++ " submissions for ".toList ++ assignment ++ " (".toList ++ Decimal.digits problems
    ++ " problems)".toList

/-- The seconds in some milliseconds, with one place. -/
def secondsText (milliseconds : UInt64) : Text :=
  Decimal.fixed 1 (Float.ofNat milliseconds.toNat / 1000)

/-- How the user is told what comes of a submission. -/
def outcomeLine : Outcome → Text
  | .graded r => "  Graded: ".toList ++ r.student ++ ' ' :: r.score
  | .failed f => "  ERROR: ".toList ++ f.student ++ ": ".toList ++ f.error

/-- The line that tells that all submissions are done. -/
def closingLine (b : Batch) (duration : UInt64) : Text :=
  "Complete: ".toList ++ Decimal.digits b.graded.length ++ " graded, ".toList
    ++ Decimal.digits b.failures.length ++ " failed (".toList ++ secondsText duration
    ++ "s)".toList

/-- What is logged of an event. Decisions are not traced. -/
def logActions (e : Event) : List Action :=
  if e.level = .debug then [] else [.log e.level e.message]

/-! ### The names of the files -/

/-- The name of a student's grade file, given that of the student's file without its extension. -/
def gradeName (stem : Text) : Text := stem ++ "_Grade.txt".toList

/-- The name of the file that keeps the outcome of a batch, up to the format. -/
def reportStem (record : BatchRecord) : Text :=
  "report-".toList ++ record.assignment ++ '-' :: record.stamp.time.fileStamp

/-- The name of the file that keeps the outcome of a batch in a format. -/
def reportName (record : BatchRecord) (format : ReportFormat) : Text :=
  reportStem record ++ '.' :: format.name

/-! ### The command -/

/-- What is done to grade a submission. -/
def gradingActions (rules : Rules) (key : Key) (s : Submission) : List Action :=
  (submissionEvents rules key s).flatMap logActions
    ++ [.tell (outcomeLine (.ofSubmission rules key s))]

/-- Writes a file into a folder, which is made if need be. -/
def saveActions (purpose : Option Purpose) (file : Path) (text : Text) : List Action :=
  (file.parent?.map .makeFolders).toList ++ [.write purpose file text]

/-- What is done to give the students their marks. -/
def gradeFileActions (output : Path) (handIns : List HandIn) (reports : List Report) :
    List Action :=
  reports.flatMap (fun r =>
    saveActions (some .writeGrades) (output.child (gradeName (gradeStem handIns r.student)))
      r.text)
    ++ if reports.isEmpty then [] else [.tell ("Grade files saved to: ".toList ++ output)]

/-- What is done to keep the outcome in a format. -/
def reportActions (output : Path) (record : BatchRecord) (format : ReportFormat) : List Action :=
  let file := output.child (reportName record format)
  saveActions format.purpose file (format.text record) ++ [.tell (format.notice ++ file)]

/-- What grading needs to know before it starts. -/
structure Preparation where
  /-- The settings. -/
  settings : Settings
  /-- The folder for grade files and reports. -/
  output : Path
  /-- The formats of the reports. -/
  formats : List ReportFormat
  /-- The key. -/
  key : Key

/-- Finds out what grading needs to know. -/
def prepare (around : Surroundings) (files : Files) (o : GradeOptions) :
    Except CommandError Preparation := do
  let settings ← findSettings around files o.config
  if o.parallelism = some 0 then .error .noParallelism
  let formats ← ReportFormat.readList o.format
  let key ← readKey files o.solution
  if key.isEmpty then .error (.emptyKey o.solution)
  return { settings, formats, key, output := o.output.getD settings.outputDir }

/-- What is done with the submissions. -/
def Preparation.plan (p : Preparation) (around : Surroundings) (o : GradeOptions)
    (handIns : List HandIn) : Plan :=
  let assignment := assignmentName o.solution
  let submissions := handIns.map HandIn.submission
  let batch := Batch.grade p.settings.rules assignment p.key submissions
  let record := BatchRecord.ofBatch around.stamp around.stamps around.duration batch
  let wanted := p.settings.createResultsFile && !o.withoutGradeFiles
  { actions :=
      [.tell (openingLine submissions.length p.key.length assignment), .tell []]
        ++ submissions.flatMap (gradingActions p.settings.rules p.key)
        ++ [.tell [], .tell (closingLine batch around.duration), .print (scoreTable batch)]
        ++ (if wanted then gradeFileActions p.output handIns batch.graded else [])
        ++ p.formats.flatMap (reportActions p.output record)
    error? := if batch.failures.isEmpty then none else some (.ungraded batch.failures.length) }

/-- What the command does. -/
def gradePlan (around : Surroundings) (files : Files) (o : GradeOptions) : Plan :=
  .ofExcept (prepare around files o) fun p =>
    let (handIns, omissions) := gather files o.solution [] o.students
    let warnings := omissions.map fun omission => Action.log .warn omission.message
    (if handIns.isEmpty then Plan.fail .noSubmissions else p.plan around o handIns).after warnings

end Grading
