/-
Texts between quotes are read back.

* `unescape?_escapeChar_append`, `scanQuoted_escapeChar_append`: how one character is read back, and
  passed over;
* `unescape?_escape`: what is written for a text stands for that text;
* `scanQuoted_escape`: the closing quote is the one that follows what is written.
-/
import Grading.Json.Quoted
import Mathlib.Tactic

namespace Grading

namespace Json

variable {s rest : Text} {c : Char}

/-! ### Control characters -/

/-- A control character is read back from its two hexadecimal digits. -/
lemma hexQuad?_control {n : Nat} (h : n < 0x20) :
    hexQuad? '0' '0' (hexDigit (n / 16)) (hexDigit (n % 16)) = some n := by
  revert n
  decide

lemma scalar?_toNat (c : Char) : scalar? c.toNat = some c := by
  rw [scalar?, if_pos (show c.toNat.isValidChar from c.valid), Char.ofNat_toNat]

/-- The letter of a short escape stands for the control character that it is written for. -/
lemma escapeLetters_of_shortEscapes {letter : Char} (h : shortEscapes.lookup c = some letter) :
    letter ≠ 'u' ∧ escapeLetters.lookup letter = some c := by
  have hall : ∀ e ∈ shortEscapes, e.2 ≠ 'u' ∧ escapeLetters.lookup e.2 = some e.1 := by decide
  obtain ⟨before, after, hsplit, -⟩ := List.lookup_eq_some_iff.mp h
  exact hall (c, letter) (by rw [hsplit]; simp)

/-! ### Reading what is written -/

lemma unescape?_cons (h : c ≠ '\\') (s : Text) :
    unescape? (c :: s) = (unescape? s).map (c :: ·) := by
  rw [unescape?]
  all_goals simp [h]

lemma unescape?_letter {letter x : Char} (hu : letter ≠ 'u')
    (h : escapeLetters.lookup letter = some x) (s : Text) :
    unescape? ('\\' :: letter :: s) = (unescape? s).map (x :: ·) := by
  rw [unescape?, h]
  simp [hu]

/-- The characters that are written for a control character without a letter. -/
lemma unescape?_control (h : c.toNat < 0x20) (s : Text) :
    unescape? (['\\', 'u', '0', '0', hexDigit (c.toNat / 16), hexDigit (c.toNat % 16)] ++ s)
      = (unescape? s).map (c :: ·) := by
  simp only [List.cons_append, List.nil_append]
  rw [unescape?]
  simp only [hexQuad?_control h, scalar?_toNat]

/-- A character is read back from what is written for it. -/
lemma unescape?_escapeChar_append (c : Char) (s : Text) :
    unescape? (escapeChar c ++ s) = (unescape? s).map (c :: ·) := by
  rw [escapeChar]
  split
  case isTrue hplain =>
    rw [Bool.or_eq_true, decide_eq_true_eq, decide_eq_true_eq] at hplain
    rcases hplain with rfl | rfl
    · exact unescape?_letter (by decide) (by decide) s
    · exact unescape?_letter (by decide) (by decide) s
  case isFalse hplain =>
    have hslash : c ≠ '\\' := by
      rintro rfl
      exact hplain (by decide)
    split
    case isTrue hcontrol =>
      cases hletter : shortEscapes.lookup c with
      | some letter =>
          obtain ⟨hu, hlookup⟩ := escapeLetters_of_shortEscapes hletter
          exact unescape?_letter hu hlookup s
      | none => exact unescape?_control hcontrol s
    case isFalse => exact unescape?_cons hslash s

/-- What is written for a text stands for that text. -/
lemma unescape?_escape (s : Text) : unescape? (escape s) = some s := by
  induction s with
  | nil => rfl
  | cons c s ih =>
      have hcons : escape (c :: s) = escapeChar c ++ escape s := List.flatMap_cons
      rw [hcons, unescape?_escapeChar_append, ih]
      rfl

/-! ### Passing over what is written -/

/-- Passing over characters that belong to the text. -/
def passed (written : Text) (p : Text × Text) : Text × Text := (written ++ p.1, p.2)

lemma scanQuoted_cons (hquote : c ≠ '"') (hslash : c ≠ '\\') (hcontrol : ¬ c.toNat < 0x20)
    (s : Text) : scanQuoted (c :: s) = (scanQuoted s).map (passed [c]) := by
  rw [scanQuoted, if_neg (by simp [hslash, hcontrol])]
  · rfl
  all_goals simp [hquote, hslash]

lemma scanQuoted_letter {letter x : Char} (hu : letter ≠ 'u')
    (h : escapeLetters.lookup letter = some x) (s : Text) :
    scanQuoted ('\\' :: letter :: s) = (scanQuoted s).map (passed ['\\', letter]) := by
  rw [scanQuoted, h]
  · rfl
  · simp [hu]

lemma scanQuoted_control (h : c.toNat < 0x20) (s : Text) :
    scanQuoted (['\\', 'u', '0', '0', hexDigit (c.toNat / 16), hexDigit (c.toNat % 16)] ++ s)
      = (scanQuoted s).map
        (passed ['\\', 'u', '0', '0', hexDigit (c.toNat / 16), hexDigit (c.toNat % 16)]) := by
  simp only [List.cons_append, List.nil_append]
  rw [scanQuoted, hexQuad?_control h]
  rfl

/-- What is written for a character is passed over. -/
lemma scanQuoted_escapeChar_append (c : Char) (s : Text) :
    scanQuoted (escapeChar c ++ s) = (scanQuoted s).map (passed (escapeChar c)) := by
  rw [escapeChar]
  split
  case isTrue hplain =>
    rw [Bool.or_eq_true, decide_eq_true_eq, decide_eq_true_eq] at hplain
    rcases hplain with rfl | rfl
    · exact scanQuoted_letter (x := '"') (by decide) (by decide) s
    · exact scanQuoted_letter (x := '\\') (by decide) (by decide) s
  case isFalse hplain =>
    rw [Bool.or_eq_true, decide_eq_true_eq, decide_eq_true_eq, not_or] at hplain
    split
    case isTrue hcontrol =>
      cases hletter : shortEscapes.lookup c with
      | some letter =>
          obtain ⟨hu, hlookup⟩ := escapeLetters_of_shortEscapes hletter
          exact scanQuoted_letter hu hlookup s
      | none => exact scanQuoted_control hcontrol s
    case isFalse hcontrol => exact scanQuoted_cons hplain.1 hplain.2 hcontrol s

/-- The closing quote is the one after what is written for a text. -/
lemma scanQuoted_escape (s rest : Text) :
    scanQuoted (escape s ++ '"' :: rest) = some (escape s, rest) := by
  induction s with
  | nil => rfl
  | cons c s ih =>
      have hcons : escape (c :: s) = escapeChar c ++ escape s := List.flatMap_cons
      rw [hcons, List.append_assoc, scanQuoted_escapeChar_append, ih]
      rfl

end Json

end Grading
