import TableSchema.Number.Shortest

/-!
# Numbers with a given number of digits

A floating point number is written with a given count of decimal places, with a given count of
digits after the first and an exponent, or with a given count of significant digits in the notation
that suits its size.  The exact value is rounded once and a half goes to the even digit.
-/

namespace TableSchema.Number

/-- The digits with at least `width` of them, filled up with zeros in front. -/
def padded (width : Nat) (digits : List Char) : List Char :=
  zeros (width - digits.length) ++ digits

/-- `num / den` with the given number of decimal places. -/
def fixedChars (num den places : Nat) : List Char :=
  let digits := padded (places + 1) (Nat.toDigits 10 (roundDiv (num * Nat.pow 10 places) den))
  let whole := digits.take (digits.length - places)
  if places = 0 then whole else whole ++ '.' :: digits.drop whole.length

/-- The first `count` digits of `num / den`, rounded, and the place of the decimal point. -/
def leadingDigits (num den count : Nat) : List Char × Int :=
  if num = 0 then (zeros count, 1)
  else
    let point := decimalPoint num den
    let s := scaled 10 (count - point) num den
    let n := roundDiv s.1 s.2
    if n = Nat.pow 10 count then (Nat.toDigits 10 (n / 10), point + 1)
    else (Nat.toDigits 10 n, point)

/-- `num / den` with one digit before the point, `places` after it, and an exponent. -/
def scientificChars (num den places : Nat) : List Char :=
  let d := leadingDigits num den (places + 1)
  scientific d.1 d.2

/-- `num / den` with `count` significant digits, without zeros at the end of the fraction. -/
def generalChars (num den count : Nat) : List Char :=
  let count := max count 1
  let d := leadingDigits num den count
  let cut := (d.1.reverse.dropWhile (· == '0')).reverse
  let digits := if cut.isEmpty then ['0'] else cut
  if -4 < d.2 ∧ d.2 ≤ count then
    if d.2 ≤ 0 then '0' :: '.' :: (zeros (-d.2).toNat ++ digits)
    else if digits.length ≤ d.2.toNat then digits ++ zeros (d.2.toNat - digits.length)
    else digits.take d.2.toNat ++ '.' :: digits.drop d.2.toNat
  else scientific digits d.2

end TableSchema.Number
