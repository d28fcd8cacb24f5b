/-
A disk of folders and files, and the folder that paths start from.

* `Disk.find`: what lies at a path;
* `Disk.files`: what a run can see of the disk;
* `Disk.write`, `Disk.makeFolders`: the disk with a file written or a folder made. Folders that are
  made on the way to one that cannot be made stay.
-/
import Grading.Files.Basic

namespace Grading

/-- What lies at a place of a disk. -/
inductive Node where
  /-- A folder. -/
  | folder
  /-- A file that holds a text. -/
  | file (text : Text)
  /-- A file that holds no text. -/
  | blob
deriving DecidableEq, Repr

/-- A place of a disk: the names of the folders that lead there from the root, and its own. -/
abbrev Place := List Text

/-- A disk, with the folder that paths start from. -/
structure Disk where
  /-- All that there is below the root. -/
  nodes : List (Place × Node)
  /-- Where paths start that do not start at the root. -/
  here : Place
deriving DecidableEq, Repr

namespace Disk

/-- What lies at a place. The root is a folder. -/
def node? (d : Disk) (place : Place) : Option Node :=
  if place.isEmpty then some .folder else d.nodes.lookup place

/-- The disk with something put at a place. -/
def put (place : Place) (node : Node) (d : Disk) : Disk :=
  { d with nodes := (place, node) :: d.nodes.filter fun n => n.1 ≠ place }

/-- The greatest number of bytes in a name. -/
def longestName : Nat := 255

/-- The greatest number of bytes in a path. -/
def longestPath : Nat := 4095

/-- The number of bytes that a text takes. -/
def byteLength (s : Text) : Nat := (String.ofList s).utf8ByteSize

/-- The place that a name leads to from a folder. An empty name and a dot stay, and two dots lead to
the folder around it. -/
def step (place : Place) (name : Text) : Except FileError Place :=
  if name.isEmpty || name = ['.'] then .ok place
  else if name = ['.', '.'] then .ok place.dropLast
  else if byteLength name ≤ longestName then .ok (place ++ [name])
  else .error .longName

/-- Follows names from a place. Every place but the last has to be a folder. -/
def follow (d : Disk) : Place → List Text → Except FileError Place
  | place, [] => .ok place
  | place, name :: names =>
    match d.node? place with
    | none => .error .notFound
    | some .folder => do follow d (← step place name) names
    | some _ => .error .notFolder

/-- Where a path starts. -/
def start (d : Disk) (p : Path) : Place := if p.isAbsolute then [] else d.here

/-- The path, unless it is too long or empty. -/
def usable (p : Path) : Except FileError Path :=
  if p.isEmpty then .error .notFound
  else if byteLength p ≤ longestPath then .ok p
  else .error .longName

/-- The place that a path leads to, at which there need be nothing. -/
def locate (d : Disk) (p : Path) : Except FileError Place := do
  d.follow (d.start p) ((← usable p).pieces '/')

/-- What lies at a path. -/
def find (d : Disk) (p : Path) : Except FileError Node := do
  match d.node? (← d.locate p) with
  | some node => return node
  | none => .error .notFound

/-- What a run can see of the disk. -/
def files (d : Disk) : Files := fun p => do
  match ← d.find p with
  | .file text => return text
  | .folder => .error .isFolder
  | .blob => .error .notText

/-- The path without slashes at its end. -/
def withoutSlashes (p : Path) : Path := (p.reverse.dropWhile (· = '/')).reverse

/-- Why a file cannot be written at a path that has a slash at its end: the path is that of a
folder, if it leads anywhere. -/
def slashError (d : Disk) (p : Path) : FileError :=
  let names := ((withoutSlashes p).pieces '/').dropLast ++ [[]]
  match usable p, d.follow (d.start p) names with
  | .error e, _ => e
  | .ok _, .error e => e
  | .ok _, .ok _ => .isFolder

/-- The disk with a text written to a file. -/
def write (p : Path) (text : Text) (d : Disk) : Except FileError Disk := do
  if p.getLast? = some '/' then .error (d.slashError p)
  else
    let place ← d.locate p
    if d.node? place = some .folder then .error .isFolder
    else return d.put place (.file text)

/-- The disk with the folders that the names lead through from a place, as far as they can be made,
and why not all can be. `made` tells that some have been made on the way: from there on they are
made one by one. -/
def makeAlong (made : Bool) (d : Disk) : Place → List Text → Disk × Option FileError
  | _, [] => (d, none)
  | place, name :: names =>
    match step place name with
    | .error e => (d, some e)
    | .ok next =>
      match d.node? next with
      | some .folder => makeAlong made d next names
      | some _ => (d, some (if made || names.isEmpty then .taken else .notFolder))
      | none => makeAlong true (d.put next .folder) next names

/-- The disk with a folder at the path, and folders on the way there, as far as they can be made,
and why not all can be. -/
def makeFolders (p : Path) (d : Disk) : Disk × Option FileError :=
  if byteLength p ≤ longestPath then
    d.makeAlong false (d.start p) (p.components.filter fun n => n ≠ ['/'])
  else (d, some .longName)

end Disk

end Grading
