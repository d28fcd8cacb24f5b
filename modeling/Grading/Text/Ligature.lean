/-
Letters of several scripts that are drawn as one:

* `isAlef`, `isLam`, `isTransparent`: a lam and an alef are drawn as one letter, whatever marks
  stand between them;
* `LigatureEnd`: the letters that end the other ligatures, and `LigatureEnd.ofChar?`, which
  characters they are;
* `LigatureEnd.join?`: which letters they are joined to, and the columns that the joining takes;
* `isBridged`: the marks that stand between letters without parting them.
-/
import Grading.Text.Columns

namespace Grading

namespace Text

/-- Whether a character is an alef, with or without marks. -/
def isAlef (c : Char) : Bool :=
  inRanges [(0x622, 0x623), (0x625, 0x625), (0x627, 0x627), (0x671, 0x673), (0x675, 0x675),
    (0x773, 0x774), (0x870, 0x882)] c

/-- Whether a character is a lam, with or without marks. -/
def isLam (c : Char) : Bool :=
  inRanges [(0x644, 0x644), (0x6B5, 0x6B8), (0x76A, 0x76A), (0x8A6, 0x8A6), (0x8C7, 0x8C7)] c

/-- The characters without a column that part the letters beside them all the same, as closed ranges
of code points. -/
def partingRanges : List (Nat × Nat) :=
  [(0x605, 0x605), (0x890, 0x891), (0x8E2, 0x8E2), (0x9BE, 0x9BE), (0x9D7, 0x9D7), (0xB3E, 0xB3E),
   (0xB57, 0xB57), (0xBBE, 0xBBE), (0xBD7, 0xBD7), (0xCC0, 0xCC0), (0xCC2, 0xCC2), (0xCC7, 0xCC8),
   (0xCCA, 0xCCB), (0xCD5, 0xCD6), (0xD3E, 0xD3E), (0xD57, 0xD57), (0xDCF, 0xDCF), (0xDDF, 0xDDF),
   (0x1160, 0x11FF), (0x1715, 0x1715), (0x1734, 0x1734), (0x180E, 0x180E), (0x1B35, 0x1B35),
   (0x1B3B, 0x1B3B), (0x1B3D, 0x1B3D), (0x1B43, 0x1B44), (0x1BAA, 0x1BAA), (0x1BF2, 0x1BF3),
   (0x200C, 0x200D), (0x2065, 0x2069), (0x302E, 0x302F), (0x3164, 0x3164), (0xA8FA, 0xA8FA),
   (0xA953, 0xA953), (0xA9C0, 0xA9C0), (0xD7B0, 0xD7C6), (0xD7CB, 0xD7FB), (0xFFA0, 0xFFA0),
   (0xFFF0, 0xFFF8), (0x111C0, 0x111C0), (0x11235, 0x11235), (0x1133E, 0x1133E), (0x1134D, 0x1134D),
   (0x11357, 0x11357), (0x113B8, 0x113B8), (0x113C2, 0x113C2), (0x113C5, 0x113C5),
   (0x113C7, 0x113C9), (0x113CF, 0x113CF), (0x114B0, 0x114B0), (0x114BD, 0x114BD),
   (0x115AF, 0x115AF), (0x116B6, 0x116B6), (0x11930, 0x11930), (0x1193D, 0x1193D),
   (0x11F41, 0x11F41), (0x16FF0, 0x16FF1), (0x1D165, 0x1D166), (0x1D16D, 0x1D172),
   (0xE0000, 0xE0000), (0xE0002, 0xE001F), (0xE0080, 0xE00FF), (0xE01F0, 0xE0FFF)]

/-- Whether a character takes no column and lets the letters beside it join. -/
def isTransparent (c : Char) : Bool := isZeroWidth c && !inRanges partingRanges c

/-- The characters that ask for the letters beside them to be joined. -/
def isJoiner (c : Char) : Bool := c == '\u200D'

/-- Whether a character is a mark that is not drawn and stands between letters without parting
them. -/
def isBridged (c : Char) : Bool :=
  inRanges [(0x34F, 0x34F), (0x17B4, 0x17B5), (0x180B, 0x180D), (0x180F, 0x180F),
    (0xFE00, 0xFE0F), (0xE0100, 0xE01EF)] c

/-- The consonants of Tifinagh. -/
def isTifinagh (c : Char) : Bool := inRanges [(0x2D31, 0x2D65), (0x2D6F, 0x2D6F)] c

/-- The Khmer letters whose form below another letter takes no column. -/
def isKhmerBelow (c : Char) : Bool :=
  inRanges [(0x1780, 0x1782), (0x1784, 0x1787), (0x1789, 0x178C), (0x178E, 0x1793),
    (0x1795, 0x1798), (0x179B, 0x179D), (0x17A0, 0x17A0), (0x17A2, 0x17A2), (0x17A7, 0x17A7),
    (0x17AB, 0x17AC), (0x17AF, 0x17AF)] c

/-- The ends of ligatures. -/
inductive LigatureEnd where
  /-- The Hebrew lamed, which an alef joins. -/
  | lamed
  /-- A Khmer letter, which the coeng sign puts below the letter before it. -/
  | khmer
  /-- The Buginese ya, which the vowel i joins. -/
  | ya
  /-- The Buginese vowel i with a ya, which the letter a joins. -/
  | vowelYa
  /-- A consonant of Tifinagh, which another one joins. -/
  | tifinagh
  /-- A consonant of Tifinagh with the sign that joins consonants. -/
  | signTifinagh
  /-- A second tone letter of Lisu, which a first one joins. -/
  | lisu
  /-- The Old Turkic letter i, which a ch joins. -/
  | orkhon
deriving DecidableEq, Repr

namespace LigatureEnd

/-- The end of a ligature that a character is. -/
def ofChar? (c : Char) : Option LigatureEnd :=
  if c = '\u05DC' then some .lamed
  else if isKhmerBelow c then some .khmer
  else if c = '\u1A10' then some .ya
  else if isTifinagh c then some .tifinagh
  else if c = '\uA4FC' ∨ c = '\uA4FD' then some .lisu
  else if c.toNat = 0x10C03 then some .orkhon
  else none

/-- What becomes of the end of a ligature when `c` stands before it: the columns that are added, and
the end that the two make together, if they make one. `joined` tells that a joiner stands between
them. There is no answer if they are not joined. -/
def join? (joined : Bool) (c : Char) : LigatureEnd → Option (Int × Option LigatureEnd)
  | .lamed => if joined && c == '\u05D0' then some (0, none) else none
  | .khmer => if c = '\u17D2' then some (-1, none) else none
  | .ya => if joined && c == '\u1A17' then some (0, some .vowelYa) else none
  | .vowelYa => if c = '\u1A15' then some (0, none) else none
  | .tifinagh =>
    if c = '\u2D7F' then some (1, some .signTifinagh)
    else if joined && isTifinagh c then some (0, none)
    else none
  | .signTifinagh => if isTifinagh c then some (-1, none) else none
  | .lisu => if inRanges [(0xA4F8, 0xA4FB)] c then some (0, none) else none
  | .orkhon => if joined && c.toNat == 0x10C32 then some (0, none) else none

end LigatureEnd

end Text

end Grading
