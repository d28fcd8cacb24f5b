/-
Identifiers of 128 bits.

* `Uuid`: such an identifier;
* `Uuid.ofRandom`: one that is drawn at random;
* `Uuid.render`: how it is written: lower-case hexadecimal digits in groups with hyphens;
* `Uuid.ofText?`: how it is read: in either case, with hyphens or without, and in the first form
  also between braces or after `urn:uuid:`, which may be in either case as well.
-/
import Grading.Json.Quoted

namespace Grading

/-- An identifier. -/
structure Uuid where
  /-- The identifier as one number. -/
  bits : BitVec 128
deriving DecidableEq, Repr

namespace Uuid

/-- The identifier of nothing in particular. -/
def nil : Uuid := ⟨0⟩

/-- The bits that tell of which kind an identifier is. -/
def kindBits : BitVec 128 := 0xF <<< 76 ||| 3 <<< 62

/-- The kind of identifiers that are drawn at random. -/
def randomKind : BitVec 128 := 4 <<< 76 ||| 2 <<< 62

/-- The identifier that random bits make. Those that tell its kind are replaced. -/
def ofRandom (bits : BitVec 128) : Uuid := ⟨(bits &&& ~~~kindBits) ||| randomKind⟩

/-- The last `n` hexadecimal digits of a number, most significant first. -/
def hexDigits (n value : Nat) : Text :=
  (List.range n).map fun i => Json.hexDigit ((value >>> (4 * (n - 1 - i))) % 16)

/-- The number of digits in each group. -/
def groups : List Nat := [8, 4, 4, 4, 12]

/-- Cuts a text into pieces of the given lengths. -/
def cutGroups (s : Text) : List Nat → List Text
  | [] => []
  | n :: ns => s.take n :: cutGroups (s.drop n) ns

/-- The identifier as it is written. -/
def render (u : Uuid) : Text := Text.join ['-'] (cutGroups (hexDigits 32 u.bits.toNat) groups)

/-- The number that hexadecimal digits stand for. -/
def hexNumber? (s : Text) : Option Nat :=
  (s.mapM Json.hexValue?).map fun ds => ds.foldl (fun n d => 16 * n + d) 0

/-- Reads 32 digits. -/
def ofDigits? (s : Text) : Option Uuid :=
  if s.length = 32 then (hexNumber? s).map fun n => ⟨BitVec.ofNat 128 n⟩ else none

/-- Reads groups of digits with hyphens between them. -/
def ofGroups? (s : Text) : Option Uuid :=
  let parts := s.pieces '-'
  if parts.map List.length = groups then ofDigits? parts.flatten else none

/-- What stands between a brace in front and one at the end. -/
def braced? : Text → Option Text
  | '\x7b' :: s => ['\x7d'].isSuffixOf? s
  | _ => none

/-- The letters before a name that is an identifier. -/
def scheme : Text := "urn:uuid:".toList

/-- What stands after the scheme, which may be in either case. -/
def afterScheme? (s : Text) : Option Text :=
  if (s.take scheme.length).map Char.toLower = scheme then some (s.drop scheme.length) else none

/-- Reads an identifier. -/
def ofText? (s : Text) : Option Uuid :=
  match ofDigits? s with
  | some u => some u
  | none =>
    match afterScheme? s, braced? s with
    | some t, _ => ofGroups? t
    | none, some t => ofGroups? t
    | none, none => ofGroups? s

end Uuid

end Grading
