/-
Rounding an exact quotient to a whole number:

* `Tie`: which way a quotient goes that lies halfway between two whole numbers;
* `roundDiv`: the nearest whole number to a quotient;
* `near_roundDiv`: it is within half a unit of the quotient.
-/

namespace Grading

namespace Decimal

/-- Which of two equally near neighbours is taken. -/
inductive Tie where
  /-- The even one. -/
  | toEven
  /-- The one further from zero. -/
  | awayFromZero
deriving DecidableEq, Repr

/-- The whole number nearest to `num / den`. -/
def roundDiv (tie : Tie) (num den : Nat) : Nat :=
  let q := num / den
  let twice := 2 * (num % den)
  if twice < den then q
  else if den < twice then q + 1
  else
    match tie with
    | .awayFromZero => q + 1
    | .toEven => q + q % 2

/-- The rounded quotient is within half a unit of the exact one. -/
theorem near_roundDiv (tie : Tie) (num : Nat) {den : Nat} (h : 0 < den) :
    2 * (roundDiv tie num den * den) ≤ 2 * num + den ∧
      2 * num ≤ 2 * (roundDiv tie num den * den) + den := by
  have hdiv : den * (num / den) + num % den = num := Nat.div_add_mod num den
  have hlt : num % den < den := Nat.mod_lt _ h
  have hup : (num / den + 1) * den = den * (num / den) + den := by
    rw [Nat.add_mul, Nat.one_mul, Nat.mul_comm]
  have hdown : num / den * den = den * (num / den) := Nat.mul_comm _ _
  simp only [roundDiv]
  split
  · omega
  · split
    · omega
    · cases tie with
      | awayFromZero => simp only; omega
      | toEven =>
        rcases Nat.mod_two_eq_zero_or_one (num / den) with hq | hq
        · simp only [hq, Nat.add_zero]; omega
        · simp only [hq]; omega

end Decimal

end Grading
