/-
How many columns of a terminal a line of text takes. Most characters take their own columns; some
take others because of what follows them: emoji that are joined into one, letters of flags,
ligatures. So a line is read from its end.

* `Opening`: what a text begins with, as far as the character before it is concerned;
* `Opening.join?`: the characters that become one with what follows them;
* `Suffix.extend`: a text with one character more before it;
* `width`: the columns of a line.
-/
import Grading.Text.Emoji
import Grading.Text.Ligature

namespace Grading

namespace Text

/-- What a text begins with. -/
inductive Opening where
  /-- Nothing that a character before it is joined to. -/
  | plain
  /-- A skin tone. -/
  | skinTone
  /-- One letter of a flag. -/
  | flagLetter
  /-- Two letters of flags, or more. -/
  | flagLetters
  /-- An emoji. -/
  | emoji
  /-- A joiner and an emoji. -/
  | joinedEmoji
  /-- The sign of a key, a joiner and an emoji. -/
  | joinedKey
  /-- One letter of a flag, a joiner and an emoji. -/
  | joinedLetter
  /-- Flags, a joiner and an emoji. -/
  | joinedFlags
  /-- One letter more than flags, a joiner and an emoji. -/
  | joinedOddLetters
  /-- The end of the name of a region, so many letters and digits of it, a joiner and an emoji. -/
  | joinedName (letters digits : Nat)
  /-- The vowel e of Kirat Rai. -/
  | vowelE
  /-- The vowel ai of Kirat Rai. -/
  | vowelAi
  /-- An Arabic alef. -/
  | alef
  /-- The end of a ligature, with a joiner before it or not. -/
  | ligature (ending : LigatureEnd) (joined : Bool)
deriving DecidableEq, Repr

namespace Opening

/-- What a character makes of a text by standing at its start, apart from what follows it. -/
def ofChar (c : Char) : Opening :=
  if isAlef c then .alef
  else if c.toNat = 0x16D67 then .vowelE
  else if c.toNat = 0x16D68 then .vowelAi
  else if isFlagLetter c then .flagLetter
  else if isSkinTone c then .skinTone
  else if isEmoji c then .emoji
  else ((LigatureEnd.ofChar? c).map fun e => .ligature e false).getD .plain

/-- What is left to be joined when a selector stands before a text. -/
def afterSelector : Selector → Opening → Opening
  | _, .alef => .alef
  | _, .ligature e joined => .ligature e joined
  | .emoji, .joinedEmoji => .joinedEmoji
  | .emoji, .joinedKey => .joinedKey
  | _, _ => .plain

/-- What is left to be joined when a selector stands before a text, and a character that it does not
apply to before that. -/
def afterIdleSelector : Opening → Opening
  | .alef => .alef
  | .ligature e joined => .ligature e joined
  | _ => .plain

/-- The columns that a character adds to a text by asking for an emoji there: none if the emoji is
joined to the next one. -/
def selectedEmojiColumns : Opening → Int
  | .joinedEmoji => 0
  | .joinedKey => 0
  | _ => 2

/-- What becomes of a text when a character before it is joined to its opening: the columns that are
added, and the new opening. There is no answer if the character stands for itself. -/
def join? (c : Char) : Opening → Option (Int × Opening)
  | .plain => none
  | .skinTone =>
    if takesSkinTone c then some (0, .emoji)
    else if isJoiner c then some (0, .joinedEmoji)
    else none
  | .flagLetter => if isFlagLetter c then some (1, .flagLetters) else none
  | .flagLetters =>
    if isFlagLetter c then some (1, .flagLetters)
    else if isJoiner c then some (0, .joinedEmoji)
    else none
  | .emoji => if isJoiner c then some (0, .joinedEmoji) else none
  | .joinedEmoji =>
    if c = '\u20E3' then some (0, .joinedKey)
    else if isFlagLetter c then some (1, .joinedLetter)
    else if isSkinTone c then some (0, .skinTone)
    else if isTagEnd c then some (0, .joinedName 0 0)
    else if isEmoji c then some (0, .emoji)
    else none
  | .joinedKey => none
  | .joinedLetter => if isFlagLetter c then some (-1, .joinedFlags) else none
  | .joinedFlags =>
    if isFlagLetter c then some (3, .joinedOddLetters)
    else if isJoiner c then some (0, .joinedEmoji)
    else none
  | .joinedOddLetters =>
    if isFlagLetter c then some (-1, .joinedFlags)
    else if isJoiner c then some (0, .joinedEmoji)
    else none
  | .joinedName letters digits =>
    if isTagLetter c && digits == 0 && letters < 6 then some (0, .joinedName (letters + 1) 0)
    else if isTagDigit c && (if digits = 0 then letters < 5 else digits < 3) then
      some (0, .joinedName letters (digits + 1))
    else if isBlackFlag c && (if digits = 0 then 3 ≤ letters else digits = 3) then
      some (0, .emoji)
    else none
  | .vowelE =>
    if c.toNat = 0x16D67 then some (0, .vowelAi)
    else if c.toNat = 0x16D68 then some (1, .vowelE)
    else if c.toNat = 0x16D63 ∨ c.toNat = 0x16D69 then some (0, .plain)
    else none
  | .vowelAi => if c.toNat = 0x16D63 then some (0, .plain) else none
  | .alef =>
    if isLam c then some (0, .plain)
    else if isTransparent c then some (0, .alef)
    else none
  | .ligature e joined =>
    if isJoiner c then some (0, .ligature e true)
    else if isBridged c then some (0, .ligature e joined)
    else (e.join? joined c).map fun (n, rest) => (n, (rest.map (.ligature · true)).getD .plain)

end Opening

/-- The part of a line from some character on. -/
structure Suffix where
  /-- The columns it takes. -/
  columns : Int := 0
  /-- The selector it starts with. -/
  selector : Option Selector := none
  /-- What it starts with, after the selector. -/
  opening : Opening := .plain

namespace Suffix

/-- The suffix with a character before it that adds some columns and makes a new opening. -/
def before (columns : Int) (opening : Opening) (s : Suffix) : Suffix :=
  { columns := columns + s.columns, opening := opening }

/-- The suffix with a character before it to which its selector, if any, does not apply. -/
def extendPlainly (c : Char) (s : Suffix) : Suffix :=
  if c ≤ '\u00A0' then s.before 1 .plain
  else
    match Selector.ofChar? c with
    | some selector => { s with selector := selector, opening := s.opening.afterSelector selector }
    | none =>
      match s.opening.join? c with
      | some (columns, opening) => s.before columns opening
      | none => s.before (columnsAlone c) (.ofChar c)

/-- The suffix with one character more before it. -/
def extend (c : Char) (s : Suffix) : Suffix :=
  match s.selector with
  | none => s.extendPlainly c
  | some selector =>
    if selector.applies c then
      match selector with
      | .text => s.before 1 .plain
      | .emoji => s.before s.opening.selectedEmojiColumns .emoji
      | .wideQuote => s.before 2 .plain
    else { s with opening := s.opening.afterIdleSelector }.extendPlainly c

end Suffix

/-- The columns a line takes. -/
def width (s : Text) : Nat := (s.foldr Suffix.extend {}).columns.toNat

end Text

end Grading
