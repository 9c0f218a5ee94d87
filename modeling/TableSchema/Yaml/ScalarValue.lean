import TableSchema.Number.FloatText
import TableSchema.Text.Base64
import TableSchema.Yaml.Fault
import TableSchema.Yaml.Tag

/-!
# Values of scalars

The value of a scalar is an atom that its tag and its text determine. A text that was tagged by
hand need not be written like a value of its tag.
-/

namespace TableSchema.Yaml

open TableSchema.Number TableSchema.Text

/-- A whole number of the base. -/
def wholeNumber (base : Nat) (cs : List Char) : Except Fault Int :=
  match readInteger base cs with
  | .ok n => .ok n
  | .error (.tooLong digits) => .error (.badValue (longNumeralMessage digits))
  | .error .malformed =>
    let shown := String.ofList ((quotedChars cs).take 200)
    .error (.badValue s!"invalid literal for int() with base {base}: {shown}")

/-- A floating point number. -/
def floatNumber (cs : List Char) : Except Fault Binary64 :=
  match readBinary64 cs with
  | some x => .ok x
  | none =>
    .error (.badValue ("could not convert string to float: " ++ String.ofList (quotedChars cs)))

/-- The number whose places of base sixty are these, the highest first. -/
def sexagesimal (places : List Int) : Int :=
  places.foldl (fun n p => 60 * n + p) 0

/-- The sum of floating point places of base sixty, the lowest first, each rounded on its own. -/
def sexagesimalSum (total : Binary64) (weight : Int) : List Binary64 → Except Fault Binary64
  | [] => .ok total
  | x :: xs =>
    let w := Binary64.ofInt weight
    if w.isFinite then sexagesimalSum (total.add (x.mul w)) (60 * weight) xs else .error .overflow

/-- A whole number without its sign. -/
def magnitude : List Char → Except Fault Int
  | [] => .error .emptyNumber
  | ['0'] => .ok 0
  | '0' :: 'b' :: cs => wholeNumber 2 cs
  | '0' :: 'x' :: cs => wholeNumber 16 cs
  | '0' :: cs => wholeNumber 8 ('0' :: cs)
  | cs => if cs.contains ':' then sexagesimal <$> (Tag.parts ':' cs).mapM (wholeNumber 10)
    else wholeNumber 10 cs

/-- The text without underscores, as sign and rest. -/
def signAndRest (cs : List Char) : Except Fault (Bool × List Char) :=
  match cs.filter (· != '_') with
  | [] => .error .emptyNumber
  | c :: cs => .ok (splitSign (c :: cs))

/-- The whole number of a text. -/
def integerValue (cs : List Char) : Except Fault Int := do
  let (negative, body) ← signAndRest cs
  let n ← magnitude body
  return if negative then -n else n

/-- The floating point number of a text. -/
def floatValue (cs : List Char) : Except Fault Binary64 := do
  let (negative, body) ← signAndRest (lowerCase cs)
  let x ← if body = ".inf".toList then .ok (.infinity false)
    else if body = ".nan".toList then .ok .nan
    else if body.contains ':' then do
      sexagesimalSum (.zero false) 1 (← (Tag.parts ':' body).mapM floatNumber).reverse
    else floatNumber body
  return if negative then x.neg else x

/-- The truth value of a word in any case. -/
def truthValue (cs : List Char) : Except Fault Bool :=
  let word := String.ofList (lowerCase cs)
  if ["yes", "true", "on"].contains word then .ok true
  else if ["no", "false", "off"].contains word then .ok false
  else .error .unknownWord

/-- The bytes of a text. -/
def bytesValue (cs : List Char) : Except Fault (List UInt8) :=
  if cs.all fun c => c.toNat < 128 then
    match readBase64 cs with
    | some bytes => .ok bytes
    | none => .error .malformed
  else .error .malformed

/-- The point of the calendar of a text. -/
def timestampValue (cs : List Char) : Except Fault Atom :=
  match Stamp.read? (Tag.withoutFinalBreak cs) with
  | none => .error .noTimestamp
  | some s => s.atom.mapError fun f => .badValue f.message

/-- The value of a scalar; nothing else is written as a scalar. -/
def scalarValue (tag : Tag) (text : String) : Except Fault Atom :=
  let cs := text.toList
  match tag with
  | .str => .ok (.text text)
  | .null => .ok .null
  | .bool => .bool <$> truthValue cs
  | .int => .int <$> integerValue cs
  | .float => .float <$> floatValue cs
  | .binary => .bytes <$> bytesValue cs
  | .timestamp => timestampValue cs
  | _ => .error .malformed

@[simp] theorem scalarValue_str (text : String) : scalarValue .str text = .ok (.text text) := rfl

@[simp] theorem scalarValue_null (text : String) : scalarValue .null text = .ok .null := rfl

end TableSchema.Yaml
