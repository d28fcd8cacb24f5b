/-
What a run can see of the files.

* `FileError`: why a file cannot be read or written;
* `Files`: what reading a path gives;
* `Files.has`: whether there is anything at a path.
-/
import Grading.Path

namespace Grading

/-- Why a file cannot be read or written. -/
inductive FileError where
  /-- There is nothing at the path. -/
  | notFound
  /-- There is a file where a folder should be made. -/
  | taken
  /-- The path goes through a file. -/
  | notFolder
  /-- There is a folder at the path. -/
  | isFolder
  /-- A name on the path is too long. -/
  | longName
  /-- The bytes of the file are no text. -/
  | notText
  /-- Something else is wrong. -/
  | other (message : Text)
deriving DecidableEq, Repr

namespace FileError

/-- How the error is told. -/
def message : FileError → Text
  | notFound => "No such file or directory (os error 2)".toList
  | taken => "File exists (os error 17)".toList
  | notFolder => "Not a directory (os error 20)".toList
  | isFolder => "Is a directory (os error 21)".toList
  | longName => "File name too long (os error 36)".toList
  | notText => "stream did not contain valid UTF-8".toList
  | other message => message

/-- Whether there is something at a path that cannot be read. -/
def isThere : FileError → Bool
  | notFound | notFolder | longName => false
  | taken | isFolder | notText | other _ => true

end FileError

/-- What reading the file at a path gives. -/
abbrev Files := Path → Except FileError Text

/-- Whether there is a file or a folder at a path. -/
def Files.has (files : Files) (p : Path) : Bool :=
  match files p with
  | .ok _ => true
  | .error e => e.isThere

end Grading
