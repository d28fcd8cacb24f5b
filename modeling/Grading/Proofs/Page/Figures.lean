/-
What pages show of numbers and times holds no angle bracket, so it need not be escaped.

* `holdsAngle`: whether a text holds an angle bracket;
* `holdsAngle_points`, `holdsAngle_percent`, `holdsAngle_score`, `holdsAngle_showTime`,
  `holdsAngle_barColor`: the figures of a page do not.
-/
import Grading.Page.Chart
import Grading.Proofs.Decimal.Written
import Grading.Proofs.Page.Escape
import Grading.Record.Instant

namespace Grading

namespace Page

open Decimal (isDigit isNumberChar digits padded fixed)

variable {s t : Text} {c : Char}

/-- Whether a text holds an angle bracket. -/
def holdsAngle (s : Text) : Bool := s.any isAngle

lemma holdsAngle_eq_false_iff : holdsAngle s = false ↔ ∀ c ∈ s, isAngle c = false := by
  rw [holdsAngle, List.any_eq_false]
  simp only [Bool.not_eq_true]

lemma holdsAngle_append (s t : Text) : holdsAngle (s ++ t) = (holdsAngle s || holdsAngle t) :=
  List.any_append

lemma holdsAngle_cons (c : Char) (s : Text) : holdsAngle (c :: s) = (isAngle c || holdsAngle s) :=
  List.any_cons

lemma holdsAngle_escape (s : Text) : holdsAngle (escape s) = false :=
  holdsAngle_eq_false_iff.mpr fun _ => isAngle_of_mem_escape

/-! ### Numbers -/

lemma isAngle_of_isNumberChar (h : isNumberChar c = true) : isAngle c = false := by
  have hopen : isNumberChar '<' = false := by decide
  have hclose : isNumberChar '>' = false := by decide
  rw [isAngle, Bool.or_eq_false_iff, decide_eq_false_iff_not, decide_eq_false_iff_not]
  constructor
  · rintro rfl
    rw [hopen] at h
    cases h
  · rintro rfl
    rw [hclose] at h
    cases h

lemma holdsAngle_of_all_isNumberChar (h : s.all isNumberChar = true) : holdsAngle s = false :=
  holdsAngle_eq_false_iff.mpr fun c hc => isAngle_of_isNumberChar (List.all_eq_true.mp h c hc)

lemma holdsAngle_digits (n : Nat) : holdsAngle (digits n) = false :=
  holdsAngle_eq_false_iff.mpr fun _ hc =>
    isAngle_of_isNumberChar (Decimal.isNumberChar_of_isDigit (Decimal.isDigit_of_mem_digits hc))

lemma holdsAngle_padded (width n : Nat) : holdsAngle (padded width n) = false :=
  holdsAngle_eq_false_iff.mpr fun _ hc =>
    isAngle_of_isNumberChar (Decimal.isNumberChar_of_isDigit (Decimal.isDigit_of_mem_padded hc))

lemma holdsAngle_fixed (places : Nat) (x : Float) : holdsAngle (fixed places x) = false :=
  holdsAngle_of_all_isNumberChar (Decimal.all_isNumberChar_fixed places x)

lemma holdsAngle_points (x : Float) : holdsAngle (points x) = false :=
  holdsAngle_of_all_isNumberChar (Decimal.all_isNumberChar_points x)

lemma holdsAngle_percent (x : Float) : holdsAngle (percent x) = false := by
  rw [percent, holdsAngle_append, holdsAngle_fixed]
  decide

lemma holdsAngle_score (r : Report) : holdsAngle r.score = false := by
  rw [Report.score, holdsAngle_append, holdsAngle_append, holdsAngle_points, holdsAngle_points]
  decide

/-! ### Times and colours -/

lemma holdsAngle_yearText (year : Int) : holdsAngle (Instant.yearText year) = false := by
  have hsign : isAngle (if year < 0 then '-' else '+') = false := by
    split <;> decide
  rw [Instant.yearText]
  split
  · exact holdsAngle_padded _ _
  · rw [holdsAngle_cons, hsign, holdsAngle_padded]
    rfl

lemma holdsAngle_dateText (d : Date) : holdsAngle (Instant.dateText d) = false := by
  have hhyphen : isAngle '-' = false := by decide
  simp only [Instant.dateText, holdsAngle_append, holdsAngle_cons, holdsAngle_yearText,
    holdsAngle_padded, hhyphen, Bool.or_false]

lemma holdsAngle_clockText (t : Instant) : holdsAngle (t.clockText [':']) = false := by
  have hjoin (a b c : Text) : Text.join [':'] [a, b, c] = a ++ ':' :: (b ++ ':' :: c) := by
    simp [Text.join, List.intercalate_cons_cons]
  have hcolon : isAngle ':' = false := by decide
  simp only [Instant.clockText, hjoin, holdsAngle_append, holdsAngle_cons, holdsAngle_padded,
    hcolon, Bool.or_false]

lemma holdsAngle_showTime (t : Instant) : holdsAngle t.showTime = false := by
  rw [Instant.showTime, holdsAngle_append, holdsAngle_append, holdsAngle_cons, holdsAngle_dateText,
    holdsAngle_clockText]
  decide

lemma holdsAngle_barColor (score : Float) : holdsAngle (barColor score) = false := by
  rw [barColor]
  split_ifs <;> decide

end Page

end Grading
