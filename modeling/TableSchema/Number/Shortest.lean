import TableSchema.Number.Binary64

/-!
# Text of floating point numbers

A finite number is written with the fewest digits that read back as the same number; of several
such numerals the one nearest to the exact value is taken.  Between `10 ^ -5` and `10 ^ 16` the
notation is positional with at least one digit on either side of the point, elsewhere it has an
exponent with a sign and at least two digits.
-/

namespace TableSchema.Number

/-- A decimal numeral without sign, `digits * 10 ^ scale`. -/
structure Numeral where
  digits : Nat
  scale : Int
deriving DecidableEq, Repr

namespace Numeral

/-- The numeral reads back as the number. -/
def ReadsAs (n : Numeral) (negative : Bool) (x : Binary64) : Prop :=
  Binary64.ofDecimal negative n.digits n.scale = x

instance (n : Numeral) (negative : Bool) (x : Binary64) : Decidable (n.ReadsAs negative x) :=
  inferInstanceAs (Decidable (_ = _))

/-- The two neighbours of `num / den` among the multiples of `10 ^ scale`, the nearer first. -/
def neighbours (num den : Nat) (scale : Int) : List Numeral :=
  let s := scaled 10 (-scale) num den
  let low := s.1 / s.2
  let near := roundDiv s.1 s.2
  [⟨near, scale⟩, ⟨if near = low then low + 1 else low, scale⟩]

/-- The exact decimal value of `m * 2 ^ e`. -/
def exact (m : Nat) (e : Int) : Numeral :=
  if 0 ≤ e then ⟨m * Nat.pow 2 e.toNat, 0⟩ else ⟨m * Nat.pow 5 (-e).toNat, e⟩

/-- The numerals of at most seventeen digits next to the value, those with fewer digits first. -/
def candidates (num den : Nat) : List Numeral :=
  (List.range 17).flatMap fun k => neighbours num den (decimalPoint num den - (k + 1 : Nat))

/-- The numeral of a finite number: the first candidate that reads back as the number. -/
def shortest (negative : Bool) (m : Nat) (e : Int) (h : Canonical m e) : Numeral :=
  let s := scaled 2 e m 1
  ((candidates s.1 s.2).find? fun n => n.ReadsAs negative (.finite negative m e h)).getD (exact m e)

/-- The digits without the zeros at their end, and the place of the decimal point before the
first of them. -/
def significant (n : Numeral) : List Char × Int :=
  let cs := Nat.toDigits 10 n.digits
  let cut := (cs.reverse.dropWhile (· == '0')).reverse
  (if cut.isEmpty then ['0'] else cut, cs.length + n.scale)

end Numeral

/-- Zeros. -/
def zeros (n : Nat) : List Char :=
  List.replicate n '0'

/-- Positional notation of the digits with the decimal point at place `point`. -/
def positional (digits : List Char) (point : Int) : List Char :=
  if point ≤ 0 then '0' :: '.' :: (zeros (-point).toNat ++ digits)
  else
    let n := point.toNat
    if digits.length ≤ n then digits ++ zeros (n - digits.length) ++ ['.', '0']
    else digits.take n ++ '.' :: digits.drop n

/-- An exponent with its sign and at least two digits. -/
def exponentText (mark : Char) (n : Int) : List Char :=
  let cs := Nat.toDigits 10 n.natAbs
  mark :: (if n < 0 then '-' else '+') :: (zeros (2 - cs.length) ++ cs)

/-- Notation with one digit before the point and an exponent. -/
def scientific (digits : List Char) (point : Int) : List Char :=
  match digits with
  | [] => []
  | [d] => d :: exponentText 'e' (point - 1)
  | d :: ds => d :: '.' :: (ds ++ exponentText 'e' (point - 1))

/-- Digits in positional notation if the point is near, else with an exponent. -/
def notated (digits : List Char) (point : Int) : List Char :=
  if -4 < point ∧ point ≤ 16 then positional digits point else scientific digits point

/-- The characters of a number. -/
def Binary64.chars : Binary64 → List Char
  | .nan => ['n', 'a', 'n']
  | .infinity negative => (if negative then ['-'] else []) ++ ['i', 'n', 'f']
  | .finite negative m e h =>
    let body :=
      if m = 0 then ['0', '.', '0']
      else
        let s := (Numeral.shortest negative m e h).significant
        notated s.1 s.2
    (if negative then ['-'] else []) ++ body

/-- The text of a number. -/
def Binary64.text (x : Binary64) : String :=
  String.ofList x.chars

end TableSchema.Number
