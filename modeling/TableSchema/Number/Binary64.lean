import TableSchema.Number.Rounding

/-!
# Binary floating point numbers of 64 bits

A finite number is a sign, a whole mantissa below `2 ^ 53` and a power of two; the mantissa has all
its 53 bits unless the exponent is the least one, so a number has one representation.  Every
operation computes the exact result as a quotient of natural numbers and rounds it once, to the
nearest number and from halfway to the even mantissa.
-/

namespace TableSchema.Number

/-- The least mantissa with all its bits, `2 ^ 52`. -/
def leastFull : Nat := 4503599627370496

/-- The mantissa and the exponent represent a finite number in its one way. -/
def Canonical (mantissa : Nat) (exponent : Int) : Prop :=
  mantissa < 2 * leastFull ∧ -1074 ≤ exponent ∧ exponent ≤ 971 ∧
    (leastFull ≤ mantissa ∨ exponent = -1074)

instance (mantissa : Nat) (exponent : Int) : Decidable (Canonical mantissa exponent) :=
  inferInstanceAs (Decidable (_ ∧ _))

/-- A floating point number; a finite one is `± mantissa * 2 ^ exponent`. -/
inductive Binary64 where
  | nan
  | infinity (negative : Bool)
  | finite (negative : Bool) (mantissa : Nat) (exponent : Int)
      (canonical : Canonical mantissa exponent)
deriving DecidableEq, Repr

namespace Binary64

/-- Zero with the given sign. -/
def zero (negative : Bool) : Binary64 :=
  .finite negative 0 (-1074) (by decide)

instance : Inhabited Binary64 := ⟨zero false⟩

/-- The number of this sign, mantissa and exponent, infinite if there is no finite one. -/
def ofParts (negative : Bool) (mantissa : Nat) (exponent : Int) : Binary64 :=
  if h : Canonical mantissa exponent then .finite negative mantissa exponent h
  else .infinity negative

/-- The exponent at which `num / den` has a mantissa of 53 bits, but not below the least one. -/
def exponentOf (num den : Nat) : Int :=
  let e := (Nat.log2 num : Int) - Nat.log2 den - 52
  let s := scaled 2 (-e) num den
  max (if s.1 / s.2 < leastFull then e - 1 else e) (-1074)

/-- The number nearest to `± num / den`. -/
def ofRatio (negative : Bool) (num den : Nat) : Binary64 :=
  if num = 0 then zero negative
  else
    let e := exponentOf num den
    let s := scaled 2 (-e) num den
    let m := roundDiv s.1 s.2
    if m = 2 * leastFull then ofParts negative leastFull (e + 1) else ofParts negative m e

/-- The number nearest to `± digits * 10 ^ scale`.  Beyond 400 decimal places on either side the
result is known without the power of ten. -/
def ofDecimal (negative : Bool) (digits : Nat) (scale : Int) : Binary64 :=
  if digits = 0 then zero negative
  else if 400 < digitCount digits + scale then .infinity negative
  else if digitCount digits + scale < -400 then zero negative
  else
    let s := scaled 10 scale digits 1
    ofRatio negative s.1 s.2

/-- The number nearest to a whole number. -/
def ofInt (n : Int) : Binary64 :=
  ofRatio (n < 0) n.natAbs 1

/-- The sign and the absolute value, as a quotient, of a finite number. -/
def ratio? : Binary64 → Option (Bool × Nat × Nat)
  | .nan | .infinity _ => none
  | .finite negative m e _ => some (negative, scaled 2 e m 1)

/-- The number is finite. -/
def isFinite (x : Binary64) : Bool :=
  x.ratio?.isSome

/-- The minus sign is set. -/
def isNegative : Binary64 → Bool
  | .nan => false
  | .infinity negative => negative
  | .finite negative _ _ _ => negative

/-- The number is zero of either sign. -/
def isZero : Binary64 → Bool
  | .finite _ m _ _ => m == 0
  | _ => false

/-- The number of the same size without its sign, negated on demand. -/
def withSign (negative : Bool) : Binary64 → Binary64
  | .nan => .nan
  | .infinity _ => .infinity negative
  | .finite _ m e h => .finite negative m e h

/-- The number with the other sign. -/
def neg (x : Binary64) : Binary64 :=
  x.withSign !x.isNegative

/-- The whole part of a finite number, cut towards zero. -/
def truncate? (x : Binary64) : Option Int :=
  x.ratio?.map fun (negative, num, den) =>
    if negative then -((num / den : Nat) : Int) else (num / den : Nat)

/-- The whole number that is equal to this one. -/
def toInt? (x : Binary64) : Option Int :=
  match x.ratio? with
  | some (negative, num, den) =>
    if num % den = 0 then some (if negative then -((num / den : Nat) : Int) else (num / den : Nat))
    else none
  | none => none

/-- The sum, rounded; a sum of zero is negative only if both terms are. -/
def add : Binary64 → Binary64 → Binary64
  | .nan, _ | _, .nan => .nan
  | .infinity a, .infinity b => if a = b then .infinity a else .nan
  | .infinity a, _ | _, .infinity a => .infinity a
  | .finite a m e _, .finite b n f _ =>
    let low := min e f
    let signed (negative : Bool) (k : Nat) (g : Int) : Int :=
      let n := k * Nat.pow 2 (g - low).toNat
      if negative then -(n : Int) else n
    let sum := signed a m e + signed b n f
    if sum = 0 then zero (a && b)
    else
      let s := scaled 2 low sum.natAbs 1
      ofRatio (sum < 0) s.1 s.2

/-- The product, rounded. -/
def mul : Binary64 → Binary64 → Binary64
  | .nan, _ | _, .nan => .nan
  | .infinity a, .infinity b => .infinity (a != b)
  | .infinity a, .finite b n _ _ => if n = 0 then .nan else .infinity (a != b)
  | .finite a m _ _, .infinity b => if m = 0 then .nan else .infinity (a != b)
  | .finite a m e _, .finite b n f _ =>
    let s := scaled 2 (e + f) (m * n) 1
    ofRatio (a != b) s.1 s.2

/-- Equality of values: zeros of both signs are equal, and not-a-number differs from all. -/
def same (x y : Binary64) : Bool :=
  match x, y with
  | .nan, _ => false
  | x, y => x == y || (x.isZero && y.isZero)

theorem ofParts_of_canonical {m : Nat} {e : Int} (negative : Bool) (h : Canonical m e) :
    ofParts negative m e = .finite negative m e h := by
  simp [ofParts, h]

end Binary64

end TableSchema.Number
