import TableSchema.Text.Blank
import TableSchema.Text.Digit
import TableSchema.Text.Hex

/-!
# Text of whole numbers

A whole number is read from digits of any script with an optional sign, blanks around it and single
underscores between digits.  In other bases than ten a mark such as `0x` may stand before the
digits.  Decimal numerals of more than 4300 digits are neither read nor written.
-/

namespace TableSchema.Number

open TableSchema.Text

/-- The number of digits above which decimal numerals are refused. -/
def maxDigits : Nat := 4300

/-- Why a text gives no whole number. -/
inductive NumeralFault where
  | malformed
  | tooLong (digits : Nat)
deriving DecidableEq, Repr

/-- A text with every blank above ASCII as a space and every digit above ASCII as its ASCII digit;
other characters above ASCII become a question mark, which no numeral holds. -/
def asciiForm (cs : List Char) : List Char :=
  cs.map fun c =>
    if c.toNat < 127 then c
    else if isBlank c then ' '
    else match digit? c with
      | some d => Char.ofNat (48 + d)
      | none => '?'

/-- The value of a digit of the base. -/
def digitOf? (base : Nat) (c : Char) : Option Nat :=
  (hexValue? c).filter (· < base)

/-- The value of digits of the base; characters that are no digits are skipped. -/
def digitsValue (base : Nat) (cs : List Char) : Nat :=
  (cs.filterMap (digitOf? base)).foldl (fun n d => n * base + d) 0

/-- Underscores stand single and between other characters. -/
def wellSpaced (cs : List Char) : Bool :=
  cs.head? != some '_' && cs.getLast? != some '_' && (cs.zip cs.tail).all (· != ('_', '_'))

/-- The sign in front, true for minus, and the characters after it. -/
def splitSign : List Char → Bool × List Char
  | '-' :: cs => (true, cs)
  | '+' :: cs => (false, cs)
  | cs => (false, cs)

/-- The letter that marks numerals of the base. -/
def baseMark? : Nat → Option Char
  | 2 => some 'b'
  | 8 => some 'o'
  | 16 => some 'x'
  | _ => none

/-- The characters after the mark of the base, with one underscore that may follow the mark. -/
def dropMark (base : Nat) : List Char → List Char
  | '0' :: c :: cs =>
    if some c.toLower = baseMark? base then
      match cs with
      | '_' :: rest => rest
      | rest => rest
    else '0' :: c :: cs
  | cs => cs

/-- The number with the sign. -/
def signed (negative : Bool) (n : Nat) : Int :=
  if negative then -(n : Int) else n

/-- The whole number that a text of the base stands for. -/
def readInteger (base : Nat) (text : List Char) : Except NumeralFault Int :=
  let (negative, cs) := splitSign ((asciiForm text).dropWhile isAsciiBlank)
  let body := dropMark base cs
  let numeral := body.takeWhile fun c => c == '_' || (digitOf? base c).isSome
  let digits := numeral.filter (· != '_')
  if numeral.isEmpty || !wellSpaced numeral then .error .malformed
  else if base == 10 && maxDigits < digits.length then .error (.tooLong digits.length)
  else if (body.drop numeral.length).all isAsciiBlank then
    .ok (signed negative (digitsValue base digits))
  else .error .malformed

/-- The decimal numeral of a whole number, unless it is too long. -/
def integerText (n : Int) : Except NumeralFault String :=
  if Nat.pow 10 maxDigits ≤ n.natAbs then .error (.tooLong (maxDigits + 1)) else .ok (toString n)

/-- The message about a numeral that is too long to be read. -/
def longNumeralMessage (digits : Nat) : String :=
  s!"Exceeds the limit ({maxDigits} digits) for integer string conversion: value has {digits} " ++
    "digits; use sys.set_int_max_str_digits() to increase the limit"

/-- The message about a number that is too long to be written. -/
def longIntegerMessage : String :=
  s!"Exceeds the limit ({maxDigits} digits) for integer string conversion; " ++
    "use sys.set_int_max_str_digits() to increase the limit"

end TableSchema.Number
