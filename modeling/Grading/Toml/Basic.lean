/-
TOML values and how statements build them up.

* `Toml`: a value; a table remembers how it came about, because that decides what may be added;
* `Toml.Fields`: named values in the order in which they were defined;
* `assign?`: gives a value to a dotted key;
* `openTable?`, `openItem?`: what a table header and the header of a table in a list do.
-/
import Grading.Text.Basic

namespace Grading

/-- How a table came about. -/
inductive TableOrigin where
  /-- A header names a table inside it. -/
  | implied
  /-- A dotted key names a value inside it. -/
  | dotted
  /-- A header names it. -/
  | defined
  /-- It stands between braces. -/
  | inline
deriving DecidableEq, Repr

/-- A TOML value. -/
inductive Toml where
  /-- A text. -/
  | text (s : Text)
  /-- A whole number. -/
  | integer (n : Int)
  /-- A floating-point number. -/
  | float (x : Float)
  /-- A truth value. -/
  | bool (b : Bool)
  /-- A date, a time, or both. -/
  | moment
  /-- A list between brackets. -/
  | array (items : List Toml)
  /-- A list of tables that headers name. -/
  | tables (items : List (List (Text × Toml)))
  /-- A table. -/
  | table (origin : TableOrigin) (fields : List (Text × Toml))

namespace Toml

/-- Named values. -/
abbrev Fields := List (Text × Toml)

/-- Gives a name another value, in its place. -/
def replace (name : Text) (v : Toml) (fields : Fields) : Fields :=
  fields.map fun f => if f.1 = name then (name, v) else f

/-- Changes the last table of a list. -/
def changeLast (change : Fields → Option Fields) (items : List Fields) : Option (List Fields) :=
  match items.getLast? with
  | some last => (change last).map fun fs => items.dropLast ++ [fs]
  | none => none

/-- Gives a value to a dotted key below a table of the given origin. A key is given a value once,
and dotted keys neither reopen tables that were defined otherwise nor add to tables that a header
implies. -/
def assign? (v : Toml) : TableOrigin → List Text → Fields → Option Fields
  | _, [], _ => none
  | origin, [name], fields =>
    if origin = .implied || (fields.lookup name).isSome then none else some (fields ++ [(name, v)])
  | _, name :: path, fields =>
    match fields.lookup name with
    | none => (assign? v .dotted path []).map fun fs => fields ++ [(name, table .dotted fs)]
    | some (table .dotted inner) =>
      (assign? v .dotted path inner).map fun fs => replace name (table .dotted fs) fields
    | some (table .implied inner) =>
      (assign? v .implied path inner).map fun fs => replace name (table .implied fs) fields
    | some (tables items) =>
      (changeLast (assign? v .implied path) items).map fun is => replace name (tables is) fields
    | some _ => none

/-- Changes the table at the end of a path of names. Tables on the way that are not there yet are
implied, and in a list of tables the path goes on in the last one. -/
def change? (change : Fields → Option Fields) : List Text → Fields → Option Fields
  | [], fields => change fields
  | name :: path, fields =>
    match fields.lookup name with
    | none => (change? change path []).map fun fs => fields ++ [(name, table .implied fs)]
    | some (table .inline _) => none
    | some (table origin inner) =>
      (change? change path inner).map fun fs => replace name (table origin fs) fields
    | some (tables items) =>
      (changeLast (change? change path) items).map fun is => replace name (tables is) fields
    | some _ => none

/-- Defines a table by its header. It may be implied already, but not defined otherwise. -/
def openTable? (name : Text) (fields : Fields) : Option Fields :=
  match fields.lookup name with
  | none => some (fields ++ [(name, table .defined [])])
  | some (table .implied inner) => some (replace name (table .defined inner) fields)
  | some _ => none

/-- Adds a table to a list of tables by its header. -/
def openItem? (name : Text) (fields : Fields) : Option Fields :=
  match fields.lookup name with
  | none => some (fields ++ [(name, tables [[]])])
  | some (tables items) => some (replace name (tables (items ++ [[]])) fields)
  | some _ => none

end Toml

end Grading
