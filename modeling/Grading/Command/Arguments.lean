/-
The arguments of a command: options such as `--output dir` or `--output=dir`, and operands. After
`--` everything is an operand.

* `Kind`: what an option or an operand can be;
* `Signature`: the options and operands that a command takes;
* `Arguments`: what was given for them;
* `Signature.read`: reads arguments from left to right, up to the first that is wrong or asks for
  help.
-/
import Grading.Path
import Grading.Decimal.Digits

namespace Grading

/-- What an option or an operand can be. -/
inductive Kind where
  /-- The path of a file or folder, which is not empty. -/
  | path
  /-- Any text. -/
  | text
  /-- A whole number that fits into 64 bits. -/
  | count
  /-- Nothing: the option stands alone. -/
  | flag
deriving DecidableEq, Repr

/-- Reads a whole number, which may have a plus in front. -/
def readCount? (s : Text) : Option Nat :=
  let body := match s with
    | '+' :: t => t
    | t => t
  (Decimal.readNat? body).filter (· < Decimal.wordCount)

/-- Whether a text can be given. -/
def Kind.accepts : Kind → Text → Bool
  | path, s => !s.isEmpty
  | text, _ => true
  | count, s => (readCount? s).isSome
  | flag, _ => false

/-- The options and operands that a command takes. -/
structure Signature where
  /-- The options, each with what follows it. -/
  options : List (Text × Kind)
  /-- What the operands are. -/
  operand : Kind := .path
  /-- The greatest number of operands, if there is one. -/
  most : Option Nat := some 0

/-- What is given for the options and operands of a command. -/
structure Arguments where
  /-- The options in the order in which they are given. -/
  options : List (Text × Text) := []
  /-- The operands in order. -/
  operands : List Text := []
deriving DecidableEq, Repr

namespace Arguments

/-- What is given for an option. -/
def value? (name : String) (a : Arguments) : Option Text := a.options.lookup name.toList

/-- Whether an option is given. -/
def has (name : String) (a : Arguments) : Bool := (a.value? name).isSome

/-- The arguments with one more option. -/
def withOption (name value : Text) (a : Arguments) : Arguments :=
  { a with options := a.options ++ [(name, value)] }

/-- The arguments with one more operand. -/
def withOperand (s : Text) (a : Arguments) : Arguments :=
  { a with operands := a.operands ++ [s] }

end Arguments

/-- Why arguments are not read to their end. -/
inductive Halt where
  /-- They are refused. -/
  | refused
  /-- They ask for help. -/
  | help
deriving DecidableEq, Repr

/-- How an argument starts, which decides what it is. -/
inductive Shape where
  /-- Two hyphens: only operands follow. -/
  | divider
  /-- An option, with what stands after the equals sign if there is one. -/
  | option (name : Text) (value : Option Text)
  /-- Letters after a single hyphen. -/
  | letters (first : Char)
  /-- Any other text. -/
  | plain
deriving DecidableEq, Repr

/-- What an argument is. A hyphen alone is a text like any other. -/
def Shape.of : Text → Shape
  | ['-', '-'] => divider
  | '-' :: '-' :: s =>
    match Text.cut? '=' s with
    | some (name, value) => option name (some value)
    | none => option s none
  | '-' :: c :: _ => letters c
  | _ => plain

namespace Signature

/-- One more operand. -/
def readOperand (sig : Signature) (a : Arguments) (s : Text) : Except Halt Arguments :=
  if sig.operand.accepts s && sig.most.all fun n => a.operands.length < n then
    .ok (a.withOperand s)
  else .error .refused

/-- One more option with what is given for it. No option is given twice. -/
def readOption (sig : Signature) (a : Arguments) (name value : Text) : Except Halt Arguments :=
  match sig.options.lookup name with
  | some kind =>
    if kind.accepts value && (a.options.lookup name).isNone then .ok (a.withOption name value)
    else .error .refused
  | none => .error .refused

/-- One more option that nothing is given for in the same argument: a request for help, or one that
stands alone. -/
def readFlag (sig : Signature) (a : Arguments) (name : Text) : Except Halt Arguments :=
  if name = "help".toList then .error .help
  else if sig.options.lookup name = some .flag && (a.options.lookup name).isNone then
    .ok (a.withOption name [])
  else .error .refused

/-- Whether an option takes a value, which the next argument can be. -/
def takesValue (sig : Signature) (name : Text) : Bool :=
  match sig.options.lookup name with
  | none | some .flag => false
  | some _ => true

/-- Reads arguments after those that are read already. -/
def readFrom (sig : Signature) (a : Arguments) : List Text → Except Halt Arguments
  | [] => .ok a
  | s :: rest =>
    match Shape.of s with
    | .divider => rest.foldlM sig.readOperand a
    | .letters c => .error (if c = 'h' then .help else .refused)
    | .plain => do readFrom sig (← sig.readOperand a s) rest
    | .option name (some value) => do readFrom sig (← sig.readOption a name value) rest
    | .option name none =>
      if sig.takesValue name then
        match rest with
        | value :: others =>
          if Shape.of value = .plain then do
            readFrom sig (← sig.readOption a name value) others
          else .error .refused
        | [] => .error .refused
      else do readFrom sig (← sig.readFlag a name) rest

/-- Reads the arguments of a command. -/
def read (sig : Signature) (args : List Text) : Except Halt Arguments := sig.readFrom {} args

end Signature

end Grading
