/-
How typed values are read from JSON.

* `Json.text?`, `Json.float?`, `Json.word?`, `Json.bool?`, `Json.list?`: values of one type;
* `Json.fields?`: the fields of a record, which is written as named values or as a list in the
  order of the names. Names that the record does not have are left out, and none may come twice;
* `Fields.needed`, `Fields.defaulted`, `Fields.optional`: a field that has to be there, one with a
  default, and one that may be missing or `null`.
-/
import Grading.Json.Reader

namespace Grading

namespace Json

/-- The text that a value is. -/
def text? : Json → Option Text
  | string spelling => unescape? spelling
  | _ => none

/-- The floating-point number that a value is. -/
def float? : Json → Option Float
  | number spelling => (splitNumeric? spelling).bind Spelled.toFloat?
  | _ => none

/-- The unsigned number of 64 bits that a value is. -/
def word? : Json → Option UInt64
  | number spelling => (splitNumeric? spelling).bind Spelled.toWord?
  | _ => none

/-- The truth value that a value is. -/
def bool? : Json → Option Bool
  | bool b => some b
  | _ => none

/-- The list that a value is, with each item read. -/
def list? {α : Type} (read : Json → Option α) : Json → Option (List α)
  | array items => items.mapM read
  | _ => none

/-- The fields of a record, by name. -/
abbrev Fields := List (Text × Json)

/-- The named values with their names read. -/
def named? (fields : List (Text × Json)) : Option Fields :=
  fields.mapM fun f => (unescape? f.1).map fun name => (name, f.2)

/-- The fields of a record with the given names. -/
def fields? (names : List String) : Json → Option Fields
  | array items =>
    if items.length ≤ names.length then some ((names.map String.toList).zip items) else none
  | object fields =>
    (named? fields).bind fun all =>
      let known := all.filter fun f => (names.map String.toList).contains f.1
      if (known.map Prod.fst).Nodup then some known else none
  | _ => none

namespace Fields

/-- A field that has to be there. -/
def needed {α : Type} (fields : Fields) (name : String) (read : Json → Option α) : Option α :=
  (fields.lookup name.toList).bind read

/-- A field with a default. -/
def defaulted {α : Type} (fields : Fields) (name : String) (default : α)
    (read : Json → Option α) : Option α :=
  match fields.lookup name.toList with
  | some j => read j
  | none => some default

/-- A field that may be missing or `null`. -/
def optional {α : Type} (fields : Fields) (name : String) (read : Json → Option α) :
    Option (Option α) :=
  match fields.lookup name.toList with
  | none => some none
  | some .null => some none
  | some j => (read j).map some

end Fields

end Json

end Grading
