/-!
# Rounded quotients

A quotient of natural numbers is rounded to the nearest whole number, a half to the even neighbour.
The decimal point of a positive quotient says how many digits stand before its point.
-/

namespace TableSchema.Number

/-- The whole number nearest to `num / den`; of two equally near the even one. -/
def roundDiv (num den : Nat) : Nat :=
  let q := num / den
  let r := num % den
  if 2 * r < den then q else if den < 2 * r then q + 1 else q + q % 2

/-- The number of decimal digits of a natural number; zero has one. -/
def digitCount (n : Nat) : Nat :=
  (Nat.toDigits 10 n).length

/-- The place of the decimal point of a positive quotient: the least `p` with
`num / den < 10 ^ p`. -/
def decimalPoint (num den : Nat) : Int :=
  if den ≤ num then digitCount (num / den) else 1 - (digitCount ((den - 1) / num) : Int)

/-- The numerator and the denominator of `num / den * base ^ n`. -/
def scaled (base : Nat) (n : Int) (num den : Nat) : Nat × Nat :=
  (num * Nat.pow base n.toNat, den * Nat.pow base (-n).toNat)

theorem roundDiv_of_dvd {num den : Nat} (h : 0 < den) (hd : den ∣ num) :
    roundDiv num den = num / den := by
  have hr : num % den = 0 := Nat.mod_eq_zero_of_dvd hd
  simp [roundDiv, hr, h]

end TableSchema.Number
