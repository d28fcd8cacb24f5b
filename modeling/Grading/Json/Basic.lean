/-
JSON values and how they are written over several lines, each level two blanks further in.

* `Json`: a value, with numbers and strings as they are spelled;
* `Json.ofText`, `Json.ofFloat`, `Json.ofWord`: texts and numbers as values;
* `Json.render`: the text of a value.
-/
import Grading.Decimal.Notation
import Grading.Json.Quoted

namespace Grading

/-- A JSON value. Numbers and strings are kept as they are spelled. -/
inductive Json where
  /-- Nothing. -/
  | null
  /-- A truth value. -/
  | bool (b : Bool)
  /-- A number. -/
  | number (spelling : Text)
  /-- A string, as it stands between the quotes. -/
  | string (spelling : Text)
  /-- A list of values. -/
  | array (items : List Json)
  /-- Named values. Names are kept as they stand between the quotes. -/
  | object (fields : List (Text × Json))

namespace Json

/-- A text as a value. -/
def ofText (s : Text) : Json := string (escape s)

/-- A floating-point number as a value. One that is not finite has no spelling. -/
def ofFloat (x : Float) : Json := if x.isFinite then number (Decimal.portable.render x) else null

/-- An unsigned number of 64 bits as a value. -/
def ofWord (n : UInt64) : Json := number (Decimal.digits n.toNat)

/-- A value that may be missing. -/
def ofOption {α : Type} (f : α → Json) : Option α → Json
  | some a => f a
  | none => null

/-- Values with plain names. -/
def ofFields (fields : List (String × Json)) : Json :=
  object (fields.map fun f => (f.1.toList, f.2))

/-- The blanks in front of a line. -/
def indent (depth : Nat) : Text := List.replicate (2 * depth) ' '

/-- The lines between an opening and a closing bracket, separated by commas. -/
def bracketed (opening closing : Char) (depth : Nat) (lines : List Text) : Text :=
  match lines with
  | [] => [opening, closing]
  | _ =>
    opening :: '\n' :: Text.join [',', '\n'] (lines.map fun line => indent (depth + 1) ++ line)
      ++ '\n' :: indent depth ++ [closing]

mutual

/-- The text of a value at a level. -/
def renderAt (depth : Nat) : Json → Text
  | null => "null".toList
  | bool b => if b then "true".toList else "false".toList
  | number spelling => spelling
  | string spelling => '"' :: spelling ++ ['"']
  | array items => bracketed '[' ']' depth (renderItems (depth + 1) items)
  | object fields => bracketed '\x7b' '\x7d' depth (renderFields (depth + 1) fields)

/-- The texts of the items of a list. -/
def renderItems (depth : Nat) : List Json → List Text
  | [] => []
  | item :: items => renderAt depth item :: renderItems depth items

/-- The texts of named values. -/
def renderFields (depth : Nat) : List (Text × Json) → List Text
  | [] => []
  | (name, value) :: fields =>
    ('"' :: name ++ '"' :: ':' :: ' ' :: renderAt depth value) :: renderFields depth fields

end

/-- The text of a value. -/
def render (j : Json) : Text := renderAt 0 j

end Json

end Grading
