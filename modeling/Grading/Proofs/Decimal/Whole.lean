/-
Whole numbers and their digits.

* `value_digits`: the digits of a number stand for it;
* `head?_digits_ne`: no zero stands in front of them;
* `value_append_zeros`, `value_zeros_append`, `value_lt`: what zeros do to the value of a row of
  digits, and how large it is at most;
* `lt_length_digits`, `lt_ten_pow_length`, `ten_pow_le_of_digits`: how many digits a number has
  tells between which powers of ten it lies;
* `powerOfTen`, `value_powerOfTen`: the number that is written as a one and zeros.
-/
import Grading.Proofs.Decimal.Written
import Mathlib.Data.List.Induction

namespace Grading

namespace Decimal

variable {n k : Nat}

/-! ### The value of digits -/

lemma digitValue_digitChar {d : Nat} (h : d < 10) : digitValue (digitChar d) = d := by
  revert d
  decide

lemma value_concat (s : Text) (c : Char) : value (s ++ [c]) = 10 * value s + digitValue c := by
  rw [value, List.foldl_append]
  rfl

/-- The digits of a number are those of its tenth and one more. -/
lemma digits_of_le (h : 10 ≤ n) : digits n = digits (n / 10) ++ [digitChar (n % 10)] := by
  rw [digits, digitsUp, if_neg (by omega), List.reverse_cons]
  rfl

lemma digits_of_lt (h : n < 10) : digits n = [digitChar n] := by
  rw [digits, digitsUp, if_pos h, List.reverse_singleton]

lemma digits_ne_nil (n : Nat) : digits n ≠ [] := by
  rcases Nat.lt_or_ge n 10 with h | h
  · simp [digits_of_lt h]
  · simp [digits_of_le h]

/-- The digits of a number stand for it. -/
lemma value_digits (n : Nat) : value (digits n) = n := by
  induction n using Nat.strong_induction_on with
  | h n ih =>
      rcases Nat.lt_or_ge n 10 with h | h
      · rw [digits_of_lt h]
        exact (Nat.zero_add _).trans (digitValue_digitChar h)
      · rw [digits_of_le h, value_concat, ih (n / 10) (by omega),
          digitValue_digitChar (Nat.mod_lt n (by decide))]
        omega

/-- A number other than zero does not start with a zero. -/
lemma head?_digits_ne (h : n ≠ 0) : (digits n).head? ≠ some '0' := by
  induction n using Nat.strong_induction_on with
  | h n ih =>
      rcases Nat.lt_or_ge n 10 with hn | hn
      · rw [digits_of_lt hn, List.head?_cons]
        intro hzero
        have hvalue := digitValue_digitChar hn
        rw [Option.some.inj hzero] at hvalue
        exact h hvalue.symm
      · rw [digits_of_le hn, List.head?_append_of_ne_nil _ (digits_ne_nil _)]
        exact ih (n / 10) (by omega) (by omega)

/-! ### Rows of digits -/

lemma isDigits_iff {s : Text} : isDigits s = true ↔ s ≠ [] ∧ ∀ c ∈ s, isDigit c = true := by
  rw [isDigits, Bool.and_eq_true, Bool.not_eq_true', List.isEmpty_eq_false_iff, List.all_eq_true]

lemma isDigits_digits (n : Nat) : isDigits (digits n) = true :=
  isDigits_iff.mpr ⟨digits_ne_nil n, fun _ => isDigit_of_mem_digits⟩

lemma value_append_zeros (s : Text) (k : Nat) :
    value (s ++ List.replicate k '0') = value s * 10 ^ k := by
  induction k with
  | zero => simp
  | succ k ih =>
      have hzero : digitValue '0' = 0 := by decide
      rw [List.replicate_succ', ← List.append_assoc, value_concat, ih, hzero, Nat.pow_succ,
        Nat.add_zero, Nat.mul_comm 10, Nat.mul_assoc]

lemma value_zeros_append (k : Nat) (s : Text) : value (List.replicate k '0' ++ s) = value s := by
  induction k with
  | zero => rfl
  | succ k ih => exact ih

/-- A row of digits stands for less than the power of ten with one more digit. -/
lemma value_lt {s : Text} (h : ∀ c ∈ s, isDigit c = true) : value s < 10 ^ s.length := by
  induction s using List.reverseRecOn with
  | nil => decide
  | append_singleton s c ih =>
      have hc : digitValue c < 10 := by
        have hdigit := h c (by simp)
        rw [isDigit, Bool.and_eq_true, decide_eq_true_eq, decide_eq_true_eq] at hdigit
        have hle : c.toNat ≤ '9'.toNat := hdigit.2
        have hnine : '9'.toNat = '0'.toNat + 9 := rfl
        rw [digitValue]
        omega
      have hs := ih fun c hc => h c (List.mem_append_left _ hc)
      rw [value_concat, List.length_append, List.length_singleton, Nat.pow_succ]
      omega

/-! ### How many digits there are -/

/-- A number has more digits than the power of ten that it reaches. -/
lemma lt_length_digits (h : 10 ^ k ≤ n) : k < (digits n).length := by
  induction k generalizing n with
  | zero => exact List.length_pos_iff.mpr (digits_ne_nil n)
  | succ k ih =>
      rw [Nat.pow_succ] at h
      have hpos : 0 < 10 ^ k := Nat.pow_pos (by decide)
      have htenth : 10 ^ k ≤ n / 10 := (Nat.le_div_iff_mul_le (by decide)).mpr h
      have hlength := ih htenth
      rw [digits_of_le (by omega), List.length_append, List.length_singleton]
      omega

lemma lt_ten_pow_length (n : Nat) : n < 10 ^ (digits n).length := by
  have hlt := value_lt fun c (hc : c ∈ digits n) => isDigit_of_mem_digits hc
  rwa [value_digits] at hlt

/-- No digit is too many. -/
lemma ten_pow_le_of_digits (hn : 0 < n) : 10 ^ ((digits n).length - 1) ≤ n := by
  induction n using Nat.strong_induction_on with
  | h n ih =>
      rcases Nat.lt_or_ge n 10 with h | h
      · rw [digits_of_lt h]
        exact hn
      · have htenth := ih (n / 10) (by omega) (by omega)
        have hlength : 0 < (digits (n / 10)).length := List.length_pos_iff.mpr (digits_ne_nil _)
        have hcount : (digits n).length - 1 = (digits (n / 10)).length - 1 + 1 := by
          rw [digits_of_le h, List.length_append, List.length_singleton]
          omega
        rw [hcount, Nat.pow_succ]
        omega

/-! ### Powers of ten -/

lemma length_digits_ten_pow (k : Nat) : (digits (10 ^ k)).length = k + 1 := by
  induction k with
  | zero =>
      rw [Nat.pow_zero, digits_of_lt (by decide)]
      rfl
  | succ k ih =>
      have hpos : 0 < 10 ^ k := Nat.pow_pos (by decide)
      have hle : 10 ≤ 10 ^ (k + 1) := by
        rw [Nat.pow_succ]
        omega
      have htenth : 10 ^ (k + 1) / 10 = 10 ^ k := by
        rw [Nat.pow_succ]
        omega
      rw [digits_of_le hle, htenth, List.length_append, ih, List.length_singleton]

/-- A one with zeros after it. -/
def powerOfTen (k : Nat) : Text := '1' :: List.replicate k '0'

lemma powerOfTen_succ (k : Nat) : powerOfTen (k + 1) = powerOfTen k ++ ['0'] := by
  rw [powerOfTen, List.replicate_succ']
  rfl

lemma value_powerOfTen (k : Nat) : value (powerOfTen k) = 10 ^ k := by
  induction k with
  | zero => decide
  | succ k ih =>
      have hzero : digitValue '0' = 0 := by decide
      rw [powerOfTen_succ, value_concat, ih, hzero, Nat.pow_succ]
      omega

lemma isDigits_powerOfTen (k : Nat) : isDigits (powerOfTen k) = true := by
  refine isDigits_iff.mpr ⟨List.cons_ne_nil _ _, fun c hc => ?_⟩
  rcases List.mem_cons.mp hc with rfl | hc
  · decide
  · exact isDigit_of_mem_zeros hc

end Decimal

end Grading
