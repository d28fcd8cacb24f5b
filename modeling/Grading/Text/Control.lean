/-
Texts that are shown to somebody without their being able to steer the terminal.

* `steersTerminal`: the control characters by which a text can do so;
* `controlCode`: the code that is shown for such a character;
* `shown`: the text with codes in place of these characters.
-/
import Grading.Text.Ranges

namespace Grading

namespace Text

/-- Whether a character is the bell, the backspace, the form feed, the escape, the delete character
or a control character past ASCII. -/
def steersTerminal (c : Char) : Bool :=
  inRanges [(0x07, 0x08), (0x0C, 0x0C), (0x1B, 0x1B), (0x7F, 0x9F)] c

/-- The number in two hexadecimal digits. -/
def hexPair (n : Nat) : Text := [Nat.digitChar (n / 16), Nat.digitChar (n % 16)]

/-- The code that is shown for a control character. -/
def controlCode (c : Char) : Text :=
  if c ≤ '\x7f' then "\\x".toList ++ hexPair c.toNat
  else "\\u\x7b".toList ++ hexPair c.toNat ++ ['\x7d']

/-- The text with codes in place of the characters that steer a terminal. -/
def shown (s : Text) : Text := s.flatMap fun c => if steersTerminal c then controlCode c else [c]

end Text

end Grading
