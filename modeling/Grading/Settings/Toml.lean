/-
How settings are read from a TOML file. A setting that is not given keeps its default. Names that
are not known are passed over, except among the rules, where they are refused.

* `Toml.bool?`, `Toml.float?`, `Toml.text?`: values of one type;
* `Rules.ofToml?`: the rules, as a table or as a list in the order of the rules;
* `Settings.ofToml?`: the settings that a text gives.
-/
import Grading.Settings.Basic
import Grading.Toml.Reader

namespace Grading

namespace Toml

/-- The truth value that a value is. -/
def bool? : Toml → Option Bool
  | bool b => some b
  | _ => none

/-- The text that a value is. -/
def text? : Toml → Option Text
  | text s => some s
  | _ => none

/-- The number that a value is; a whole number is one too. -/
def number? : Toml → Option Float
  | float x => some x
  | integer n => some (Float.ofInt n)
  | _ => none

/-- The count that a value is. -/
def count? : Toml → Option Nat
  | integer n => if 0 ≤ n then some n.toNat else none
  | _ => none

/-- The value under a name, read, or the default if there is none. -/
def Fields.get? {α : Type} (fields : Fields) (name : String) (default : α)
    (read : Toml → Option α) : Option α :=
  match fields.lookup name.toList with
  | some v => read v
  | none => some default

/-- Whether nothing is in a value. -/
def isEmpty : Toml → Bool
  | array [] => true
  | table _ [] => true
  | _ => false

end Toml

/-- The way of comparing lists that a word stands for. -/
def ListMatch.ofWord? (w : Text) : Option ListMatch :=
  if w = "exact".toList then some .exact
  else if w = "contains".toList then some .contains
  else none

/-- The way of comparing lists that a value stands for: its word, or a table with nothing under
its word. -/
def ListMatch.ofToml? : Toml → Option ListMatch
  | .text w => ofWord? w
  | .table _ [(w, v)] => if v.isEmpty then ofWord? w else none
  | _ => none

/-- The names of the rules. -/
def Rules.names : List String :=
  ["preserve_spacing", "list_order_matters", "convert_fractions_to_decimals",
   "default_point_value", "list_match"]

/-- The rules that named values give. -/
def Rules.ofFields? (fields : Toml.Fields) : Option Rules := do
  let base : Rules := {}
  if fields.all fun f => (names.map String.toList).contains f.1 then
    return {
      preserveSpacing := ← fields.get? "preserve_spacing" base.preserveSpacing Toml.bool?
      listOrderMatters := ← fields.get? "list_order_matters" base.listOrderMatters Toml.bool?
      convertFractions :=
        ← fields.get? "convert_fractions_to_decimals" base.convertFractions Toml.bool?
      pointValue := ← fields.get? "default_point_value" base.pointValue Toml.number?
      listMatch := ← fields.get? "list_match" base.listMatch ListMatch.ofToml? }
  else
    none

/-- The rules that a value gives. -/
def Rules.ofToml? : Toml → Option Rules
  | .table _ fields => ofFields? fields
  | .array items => ofFields? ((names.map String.toList).zip items)
  | _ => none

/-- The settings that named values give. -/
def Settings.ofFields? (fields : Toml.Fields) : Option Settings := do
  let base : Settings := {}
  return {
    rules := ← fields.get? "grading" base.rules Rules.ofToml?
    createResultsFile := ← fields.get? "create_results_file" base.createResultsFile Toml.bool?
    expandEquivalents := ← fields.get? "expand_equivalents" base.expandEquivalents Toml.bool?
    parallelism := ← fields.get? "parallelism" base.parallelism Toml.count?
    outputDir := ← fields.get? "output_dir" base.outputDir Toml.text? }

/-- The settings that a text gives. -/
def Settings.ofToml? (s : Text) : Option Settings := (Toml.read? s).bind ofFields?

end Grading
