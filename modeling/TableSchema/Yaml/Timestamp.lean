import TableSchema.Atom
import TableSchema.Text.Digit

/-!
# Written points of the calendar

A day is written as year, month and day. A time of day may follow, with a fraction of the second
and an offset from universal time.
-/

namespace TableSchema.Yaml

open TableSchema.Calendar TableSchema.Number TableSchema.Text

/-- A written time of day. -/
structure Clock where
  hour : Nat
  minute : Nat
  second : Nat
  micro : Nat
  /-- The offset in seconds. -/
  offset : Option Int
deriving DecidableEq, Repr

/-- A written point of the calendar; its fields may denote no day. -/
structure Stamp where
  year : Nat
  month : Nat
  day : Nat
  clock : Option Clock
deriving DecidableEq, Repr

namespace Stamp

/-- The number at the beginning of a text with `least` to `most` digits, and the rest. -/
def number? (least most : Nat) (cs : List Char) : Option (Nat × List Char) :=
  let digits := (cs.take most).takeWhile Char.isDigit
  if digits.length < least then none else some (digitsValue 10 digits, cs.drop digits.length)

/-- The rest after a mark. -/
def mark? (c : Char) : List Char → Option (List Char)
  | d :: cs => if d = c then some cs else none
  | [] => none

/-- The character is a space or a tab. -/
def isGapChar (c : Char) : Bool :=
  c = ' ' || c = '\t'

/-- Microseconds of a fraction: six digits count, missing ones are zero. -/
def micros (digits : List Char) : Nat :=
  digitsValue 10 ((digits ++ List.replicate 6 '0').take 6)

/-- The offset that takes up a text: universal time, or hours and perhaps minutes with a sign. -/
def offset? : List Char → Option Int
  | ['Z'] => some 0
  | s :: cs => do
    guard (s = '+' ∨ s = '-')
    let (hours, rest) ← number? 1 2 cs
    let (minutes, rest) ← if rest.isEmpty then some (0, rest) else mark? ':' rest >>= number? 2 2
    guard rest.isEmpty
    return signed (s = '-') (hours * 3600 + minutes * 60)
  | [] => none

/-- The time of day that takes up a text. -/
def clock? (cs : List Char) : Option Clock := do
  let (hour, cs) ← number? 1 2 cs
  let (minute, cs) ← mark? ':' cs >>= number? 2 2
  let (second, cs) ← mark? ':' cs >>= number? 2 2
  let (fraction, cs) := match cs with
    | '.' :: cs => (cs.takeWhile Char.isDigit, cs.dropWhile Char.isDigit)
    | cs => ([], cs)
  let time := Clock.mk hour minute second (micros fraction)
  if cs.isEmpty then return time none
  else return time (some (← offset? (cs.dropWhile isGapChar)))

/-- The rest after what stands between a day and a time: a letter or a gap. -/
def separator? : List Char → Option (List Char)
  | c :: cs =>
    if c = 'T' ∨ c = 't' then some cs
    else if isGapChar c then some (cs.dropWhile isGapChar)
    else none
  | [] => none

/-- The point of the calendar that takes up a text. -/
def read? (cs : List Char) : Option Stamp := do
  let (year, cs) ← number? 4 4 cs
  let (month, cs) ← mark? '-' cs >>= number? 1 2
  let (day, cs) ← mark? '-' cs >>= number? 1 2
  if cs.isEmpty then return ⟨year, month, day, none⟩
  else return ⟨year, month, day, some (← separator? cs >>= clock?)⟩

/-- The day or the moment, if the fields denote one. -/
def atom (s : Stamp) : Except Calendar.Fault Atom :=
  match s.clock with
  | none => (Date.of s.year s.month s.day).map .date
  | some c =>
    (Moment.of s.year s.month s.day c.hour c.minute c.second c.micro c.offset).map .moment

/-- A text that stands for a point of the calendar without a tag: a day alone has two digits for
month and day. -/
def isImplicit (cs : List Char) : Bool :=
  match read? cs with
  | some s => s.clock.isSome || cs.length = 10
  | none => false

end Stamp

end TableSchema.Yaml
