import TableSchema.Number.Binary64
import TableSchema.Number.IntegerText
import TableSchema.Text.Case

/-!
# Reading floating point numbers

A floating point number is read from digits with an optional point and an optional exponent, or
from a name of infinity or of not-a-number in any case. Blanks may stand around it and single
underscores between digits.
-/

namespace TableSchema.Number

open TableSchema.Text

/-- An underscore has a digit on either side. -/
def underscoresBetweenDigits (cs : List Char) : Bool :=
  let apart (p : Char × Char) : Bool := p.1 != '_' || p.2.isDigit
  cs.head? != some '_' && cs.getLast? != some '_' &&
    (cs.zip cs.tail).all fun p => apart p && apart (p.2, p.1)

/-- The exponent after its mark. -/
def exponentOf? (cs : List Char) : Option Int :=
  let (negative, digits) := splitSign cs
  if digits.isEmpty || !digits.all Char.isDigit then none
  else some (signed negative (digitsValue 10 digits))

/-- The number of a numeral without sign, blanks and underscores. -/
def readDecimal (negative : Bool) (cs : List Char) : Option Binary64 :=
  let whole := cs.takeWhile Char.isDigit
  let rest := cs.drop whole.length
  let (fraction, rest) :=
    match rest with
    | '.' :: rest => (rest.takeWhile Char.isDigit, rest.dropWhile Char.isDigit)
    | rest => ([], rest)
  let number (scale : Int) : Binary64 :=
    Binary64.ofDecimal negative (digitsValue 10 (whole ++ fraction)) (scale - fraction.length)
  if (whole ++ fraction).isEmpty then none
  else match rest with
    | [] => some (number 0)
    | c :: rest => if c = 'e' ∨ c = 'E' then (exponentOf? rest).map number else none

/-- The number that a text stands for. -/
def readBinary64 (text : List Char) : Option Binary64 :=
  let cs := trimBy isAsciiBlank (asciiForm text)
  if !underscoresBetweenDigits cs then none
  else
    let (negative, body) := splitSign (cs.filter (· != '_'))
    let name := String.ofList (lowerAscii body)
    if name = "inf" ∨ name = "infinity" then some (.infinity negative)
    else if name = "nan" then some .nan
    else readDecimal negative body

end TableSchema.Number
