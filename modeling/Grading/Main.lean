/-
The program `answerkey`. It reads what a command looks at, and does what the plan of the command
says.
-/
import Grading.Command.Run
import Std.Time.DateTime.Timestamp

namespace Grading

/-- The code that an error of a file operation carries. -/
def givenCode : IO.Error → UInt32
  | .alreadyExists _ code _ | .inappropriateType _ code _ | .invalidArgument _ code _
  | .noFileOrDirectory _ code _ | .noSuchThing _ code _ | .permissionDenied _ code _
  | .resourceExhausted _ code _ | .otherError code _ => code
  | _ => 0

/-- The code that the system gives for an error. Some operations carry it with a minus. -/
def errorCode (e : IO.Error) : UInt32 :=
  let code := givenCode e
  if code < 0x80000000 then code else 0 - code

/-- The error of a file operation. -/
def fileError (e : IO.Error) : FileError :=
  match errorCode e with
  | 2 => .notFound
  | 17 => .taken
  | 20 => .notFolder
  | 21 => .isFolder
  | 36 => .longName
  | _ => .other (toString e).toList

/-- What reading a file gives. -/
def readFile (file : Path) : IO (Except FileError Text) := do
  try
    match String.fromUTF8? (← IO.FS.readBinFile (String.ofList file)) with
    | some text => return .ok text.toList
    | none => return .error .notText
  catch e => return .error (fileError e)

/-- What reading some files gives. -/
def readFiles (paths : List Path) : IO Files := do
  let found ← paths.mapM fun p => return (p, ← readFile p)
  return fun p => (found.lookup p).getD (.error .notFound)

/-- Whether there is a folder at a path. -/
def isFolder (p : Path) : IO Bool := do
  try
    let path ← IO.FS.realPath (String.ofList p)
    path.isDir
  catch _ => return false

/-- Makes a folder in a folder that is there. -/
def makeFolder (p : Path) : IO Unit := do
  try IO.FS.createDir (String.ofList p)
  catch e => if ← isFolder p then return else throw e

/-- Makes a folder, and folders on the way there. -/
partial def ensureFolders (p : Path) : IO Unit := do
  if p.isEmpty then return
  try makeFolder p
  catch e =>
    match fileError e, p.parent? with
    | .notFound, some parent =>
      ensureFolders parent
      makeFolder p
    | _, _ => throw e

/-- The present time. -/
def now : IO Instant := do
  let nanos := (← Std.Time.Timestamp.now).toNanosecondsSinceUnixEpoch.val
  return ⟨nanos / 1000000000, (nanos % 1000000000).toNat⟩

/-- A new stamp. -/
def newStamp : IO Stamp := do
  let bytes ← IO.getRandomBytes 16
  let number := bytes.toList.foldl (fun n b => 256 * n + b.toNat) 0
  return ⟨.ofRandom (.ofNat 128 number), ← now⟩

/-- Does an action. -/
def Action.perform : Action → IO Unit
  | .print text => IO.print (String.ofList text)
  | .tell line => IO.eprintln (String.ofList line)
  | .log level message => do
    IO.eprintln (String.ofList ((← now).render ++ ' ' :: Action.logLine level message))
  | .makeFolders folder => ensureFolders folder
  | .write _ file text => IO.FS.writeFile (String.ofList file) (String.ofList text)

/-- Tells why a command was not done. -/
def tellError (e : CommandError) : IO UInt32 := do
  IO.eprintln (String.ofList e.line)
  return 1

/-- Does actions up to the first that fails. -/
def performAll (atEnd : Option CommandError) : List Action → IO UInt32
  | [] =>
    match atEnd with
    | none => return 0
    | some e => tellError e
  | action :: actions => do
    match ← action.perform.toBaseIO with
    | .ok () => performAll atEnd actions
    | .error e => tellError (action.failure (fileError e))

/-- What a command takes from its surroundings. -/
def lookAround (command : Command) : IO Surroundings := do
  let setting := fun (name : String) => return (← IO.getEnv name).map String.toList
  let stamps ← match command with
    | .grade options => options.students.mapM fun _ => newStamp
    | _ => pure []
  return {
    home := ← setting "HOME", stamp := ← newStamp, stamps, duration := 0
    overrides := ⟨← setting "ANSWERKEY_POINT_VALUE", ← setting "ANSWERKEY_PRESERVE_SPACING"⟩ }

/-- Runs a command. Its plan is made once to see how long that takes, and then with that time. -/
def runCommand (command : Command) : IO UInt32 := do
  let around ← lookAround command
  let files ← readFiles (command.paths around.home)
  let start ← IO.monoMsNow
  let _ ← IO.lazyPure fun _ => command.plan around files
  let duration := UInt64.ofNat ((← IO.monoMsNow) - start)
  let plan := command.plan { around with duration } files
  performAll plan.error? plan.actions

end Grading

open Grading in
/-- Does what the arguments ask for. -/
def main (args : List String) : IO UInt32 := do
  match Request.ofArguments? (args.map String.toList) with
  | some (.run command) => runCommand command
  | some request =>
    IO.print (String.ofList request.answer)
    return 0
  | none =>
    IO.eprint (String.ofList Request.helpText)
    return 2
