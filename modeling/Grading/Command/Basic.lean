/-
The commands that can be given.

* `Command`: a command with what is given for it;
* `Request`: a command, or a wish to be told about the commands or the version;
* `Request.ofArguments`: reads the arguments of the program.
-/
import Grading.Command.Arguments

namespace Grading

/-- The version of the program. -/
def versionName : Text := "0.1.0".toList

/-- What is given for grading submissions. -/
structure GradeOptions where
  /-- The file with the key. -/
  solution : Path
  /-- The files with the submissions. -/
  students : List Path
  /-- How many submissions may be graded at a time. -/
  parallelism : Option Nat := none
  /-- The folder for grade files and reports. -/
  output : Option Path := none
  /-- The formats of the reports. -/
  format : Option Text := none
  /-- Whether no grade files are wanted. -/
  withoutGradeFiles : Bool := false
  /-- The file with the settings. -/
  config : Option Path := none
deriving DecidableEq, Repr

/-- A command. -/
inductive Command where
  /-- Grade submissions against a key. -/
  | grade (options : GradeOptions)
  /-- Unroll the shorthand of a key, in place or to be shown. -/
  | compile (solution : Path) (inPlace : Bool) (config : Option Path)
  /-- Make a response file without answers from a key. -/
  | template (solution : Path) (output : Option Path)
  /-- Make a response file without answers from a list of problems. -/
  | problems (list : Text) (output : Option Path)
  /-- Sort the lines of a file by problem number. -/
  | sort (file : Path)
  /-- Make settings and an example to start from. -/
  | init
deriving DecidableEq, Repr

/-- What the arguments of the program ask for. -/
inductive Request where
  /-- To run a command. -/
  | run (command : Command)
  /-- To be told about the commands. -/
  | help
  /-- To be told the version. -/
  | version
deriving DecidableEq, Repr

namespace Command

/-- The arguments of `grade`. -/
def gradeSignature : Signature where
  options := [("solution".toList, .path), ("parallelism".toList, .count),
    ("output".toList, .path), ("format".toList, .text), ("no-results-file".toList, .flag),
    ("config".toList, .path)]
  most := none

/-- The command that arguments of `grade` stand for. -/
def ofGrade? (a : Arguments) : Option Command := do
  let solution ← a.value? "solution"
  if a.operands.isEmpty then none
  else return .grade {
    solution, students := a.operands
    parallelism := (a.value? "parallelism").bind readCount?
    output := a.value? "output", format := a.value? "format"
    withoutGradeFiles := a.has "no-results-file", config := a.value? "config" }

/-- The arguments of `compile`. -/
def compileSignature : Signature where
  options := [("solution".toList, .path), ("write".toList, .flag), ("config".toList, .path)]

/-- The command that arguments of `compile` stand for. -/
def ofCompile? (a : Arguments) : Option Command := do
  return .compile (← a.value? "solution") (a.has "write") (a.value? "config")

/-- The arguments of `template`. -/
def templateSignature : Signature where
  options := [("solution".toList, .path), ("output".toList, .path)]

/-- The command that arguments of `template` stand for. -/
def ofTemplate? (a : Arguments) : Option Command := do
  return .template (← a.value? "solution") (a.value? "output")

/-- The arguments of `problems`. -/
def problemsSignature : Signature where
  options := [("output".toList, .path)]
  operand := .text
  most := some 1

/-- The command that arguments of `problems` stand for. -/
def ofProblems? (a : Arguments) : Option Command :=
  a.operands.head?.map fun list => .problems list (a.value? "output")

/-- The arguments of `sort`. -/
def sortSignature : Signature where
  options := []
  most := some 1

/-- The command that arguments of `sort` stand for. -/
def ofSort? (a : Arguments) : Option Command := a.operands.head?.map .sort

/-- The arguments of `init`. -/
def initSignature : Signature where
  options := []

/-- The commands by name, each with its arguments and how it is made from them. -/
def table : List (Text × Signature × (Arguments → Option Command)) :=
  [("grade".toList, gradeSignature, ofGrade?), ("compile".toList, compileSignature, ofCompile?),
   ("template".toList, templateSignature, ofTemplate?),
   ("problems".toList, problemsSignature, ofProblems?), ("sort".toList, sortSignature, ofSort?),
   ("init".toList, initSignature, fun _ => some .init)]

end Command

namespace Request

/-- Reads the arguments of a command that is known by its name. -/
def ofCommand? (sig : Signature) (make : Arguments → Option Command) (args : List Text) :
    Option Request :=
  match sig.read args with
  | .ok a => (make a).map run
  | .error .help => some help
  | .error .refused => none

/-- Reads what stands after `help`: nothing or the name of a command. -/
def ofHelp? : List Text → Option Request
  | [] => some help
  | [name] => if name = "help".toList || (Command.table.lookup name).isSome then some help else none
  | _ => none

/-- What the arguments of the program ask for, or `none` if they are refused. -/
def ofArguments? : List Text → Option Request
  | [] => none
  | name :: args =>
    match Command.table.lookup name, Shape.of name with
    | some (sig, make), _ => ofCommand? sig make args
    | none, .option word none =>
      if word = "help".toList then some help
      else if word = "version".toList then some version
      else none
    | none, .letters c => if c = 'h' then some help else if c = 'V' then some version else none
    | none, .plain => if name = "help".toList then ofHelp? args else none
    | none, _ => none

/-- What the user is told about the commands. -/
def helpText : Text := Text.ofLines
  ["Homework answer-key grader",
   "",
   "Usage: answerkey <COMMAND>",
   "",
   "Commands:",
   "  grade     --solution <FILE> [OPTIONS] <FILE>...",
   "            Grade student files against an answer key",
   "  compile   --solution <FILE> [--write] [--config <FILE>]",
   "            Compile answer-key shorthand to canonical form",
   "  template  --solution <FILE> [--output <FILE>]",
   "            Create a blank student response file from an answer key",
   "  problems  <LIST> [--output <FILE>]",
   "            Expand a problem list such as \"1-10 odds,12a-c\" into a template",
   "  sort      <FILE>",
   "            Reorder a numbered file by problem number",
   "  init      Create starter config and sample homework files",
   "",
   "Options of grade:",
   "  --parallelism <NUMBER>  Max student files graded concurrently",
   "  --output <FOLDER>       Output directory",
   "  --format <FORMATS>      Extra report formats: json, html, all",
   "  --no-results-file       Do not write <student>_Grade.txt files",
   "  --config <FILE>         Config file path"]

/-- What is given out for the request, unless a command is run. -/
def answer : Request → Text
  | run _ => []
  | help => helpText
  | version => "answerkey ".toList ++ versionName ++ ['\n']

end Request

end Grading
