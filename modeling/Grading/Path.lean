/-
File paths, with slashes between the names of directories and files. Empty names say nothing, and
neither does the name `.` except in front.

* `Path.components`: what a path consists of, by which paths are compared;
* `Path.fileName?`, `Path.stem?`: the last name, and it without its extension;
* `Path.parent?`: the path of the directory that holds the file;
* `Path.child`: the path of a file below a directory.
-/
import Grading.Text.Basic

namespace Grading

/-- A file path as it was given. -/
abbrev Path := Text

namespace Path

/-- Whether the path starts at the root. -/
def isAbsolute : Path → Bool
  | '/' :: _ => true
  | _ => false

/-- Whether a name says nothing within a path. -/
def isIdle (n : Text) : Bool := n.isEmpty || n = ['.']

/-- The names on the path, with a slash for the root and a dot for a path that starts with one. -/
def components (p : Path) : List Text :=
  let pieces := p.pieces '/'
  let names := pieces.filter fun n => !isIdle n
  if isAbsolute p then ['/'] :: names
  else if pieces.head? = some ['.'] then ['.'] :: names
  else names

/-- Whether two paths have the same components. -/
def same (p q : Path) : Bool := components p == components q

/-- Whether a component is the name of a file or directory. -/
def isName (n : Text) : Bool := n ≠ ['/'] && n ≠ ['.'] && n ≠ ['.', '.']

/-- The last component, if it is a name. -/
def fileName? (p : Path) : Option Text := (components p).getLast?.filter isName

/-- A name up to its last point, unless nothing stands before that point. -/
def dropExtension (name : Text) : Text :=
  match Text.cut? '.' name.reverse with
  | some (_, c :: before) => (c :: before).reverse
  | _ => name

/-- The last name without its extension. -/
def stem? (p : Path) : Option Text := (fileName? p).map dropExtension

/-- What is written in front of the last name of a path, without slashes and idle names at its
end. -/
def beforeLast (p : Path) : Path :=
  let back := (p.pieces '/').reverse.dropWhile isIdle
  Text.join ['/'] (back.tail.dropWhile isIdle).reverse

/-- The path of the directory that the path lies in; `none` for the root and the empty path. -/
def parent? (p : Path) : Option Path :=
  match components p with
  | [] => none
  | [c] => if c = ['/'] then none else some []
  | [c, _] => some (if c = ['/'] || c = ['.'] then c else beforeLast p)
  | _ => some (beforeLast p)

/-- The path `q` seen from the directory `p`. A path from the root stays as it is. -/
def child (p q : Path) : Path :=
  if isAbsolute q then q
  else if p.isEmpty || p.getLast? = some '/' then p ++ q
  else p ++ '/' :: q

end Path

end Grading
