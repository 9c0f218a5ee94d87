import TableSchema.Datum.Text
import TableSchema.Number.Places

/-!
# Templates with percent signs

A template is text with directives that a percent sign begins: an optional key in parentheses,
flags, a width, a precision, and a letter that says how the next argument is written. Arguments are
data in order, or the values of a mapping.
-/

namespace TableSchema.Percent

open TableSchema.Number

/-- Why a template cannot be filled. -/
inductive Fault where
  /-- The arguments do not fit the directives. -/
  | arguments
  /-- The mapping has no such key. -/
  | missingKey
  /-- The template is not well formed, or an integer is too long. -/
  | template (message : String)
deriving DecidableEq, Repr

/-- What may be filled in. -/
structure Supply where
  /-- The arguments that are left. -/
  rest : List Datum
  /-- The mapping whose values are asked for by key. -/
  entries : Option (List (Datum × Datum))

/-- The flags, the width and the precision of a directive. -/
structure Spec where
  left : Bool := false
  plus : Bool := false
  blank : Bool := false
  zero : Bool := false
  alternate : Bool := false
  width : Nat := 0
  precision : Option Nat := none

/-- The characters filled up to the width; numbers may be filled with zeros after their sign. -/
def Spec.fill (s : Spec) (sign body : List Char) (numeric : Bool) : List Char :=
  let n := s.width - (sign.length + body.length)
  if s.left then sign ++ body ++ List.replicate n ' '
  else if numeric && s.zero then sign ++ List.replicate n '0' ++ body
  else List.replicate n ' ' ++ sign ++ body

/-- The sign of a number. -/
def Spec.sign (s : Spec) (negative : Bool) : List Char :=
  if negative then ['-'] else if s.plus then ['+'] else if s.blank then [' '] else []

/-- A text, cut to the precision. -/
def Spec.ofText (s : Spec) (text : String) : List Char :=
  s.fill [] (match s.precision with | some p => text.toList.take p | none => text.toList) false

/-- An integer in the base that the letter stands for. -/
def Spec.ofInteger (s : Spec) (letter : Char) (n : Int) : List Char :=
  let base := if letter = 'o' then 8 else if letter = 'x' ∨ letter = 'X' then 16 else 10
  let digits := padded (s.precision.getD 0) (Nat.toDigits base n.natAbs)
  let mark := if s.alternate && base = 16 then ['0', 'x'] else if s.alternate && base = 8 then
    ['0', 'o'] else []
  let up (cs : List Char) : List Char := if letter = 'X' then cs.map Char.toUpper else cs
  s.fill (s.sign (n < 0) ++ up mark) (up digits) true

/-- A floating point number in the notation that the letter stands for. -/
def Spec.ofFloat (s : Spec) (letter : Char) (x : Binary64) : List Char :=
  let up (cs : List Char) : List Char := if letter.isUpper then cs.map Char.toUpper else cs
  let places := s.precision.getD 6
  match x.ratio? with
  | none => s.fill (s.sign x.isNegative) (up (x.withSign false).chars) true
  | some (negative, num, den) =>
    let body :=
      if letter = 'e' ∨ letter = 'E' then scientificChars num den places
      else if letter = 'g' ∨ letter = 'G' then generalChars num den places
      else fixedChars num den places
    s.fill (s.sign negative) (up body) true

/-- A text of ASCII, other characters escaped. -/
def asciiText (s : String) : String :=
  String.ofList (s.toList.flatMap fun c =>
    if c.toNat < 128 then [c]
    else if c.toNat < 0x100 then '\\' :: 'x' :: Text.hex 2 c.toNat
    else if c.toNat < 0x10000 then '\\' :: 'u' :: Text.hex 4 c.toNat
    else '\\' :: 'U' :: Text.hex 8 c.toNat)

/-- A text of a datum. -/
def rendered (r : Rendered) : Except Fault String :=
  r.mapError fun _ => .template longIntegerMessage

/-- The datum as a floating point number. -/
def floatOf? : Datum → Option Binary64
  | .atom (.float x) => some x
  | .atom (.int n) => some (.ofInt n)
  | .atom (.bool b) => some (.ofInt (if b then 1 else 0))
  | _ => none

/-- The datum as an integer; a floating point number loses its fraction. -/
def integerOf? (allowFloat : Bool) : Datum → Option Int
  | .atom (.int n) => some n
  | .atom (.bool b) => some (if b then 1 else 0)
  | .atom (.float x) => if allowFloat then x.truncate? else none
  | _ => none

/-- The character that a datum stands for. -/
def charOf? : Datum → Option Char
  | .atom (.text s) => match s.toList with | [c] => some c | _ => none
  | .atom (.int n) => if 0 ≤ n ∧ n < 0x110000 then some (Char.ofNat n.toNat) else none
  | _ => none

/-- A datum written as the letter says. -/
def write (s : Spec) (letter : Char) (d : Datum) : Except Fault (List Char) :=
  if letter = 's' then do return s.ofText (← rendered d.plain)
  else if letter = 'r' then do return s.ofText (← rendered d.shown)
  else if letter = 'a' then do return s.ofText (asciiText (← rendered d.shown))
  else if letter ∈ ['d', 'i', 'u', 'o', 'x', 'X'] then
    match integerOf? (letter ∈ ['d', 'i', 'u']) d with
    | some n => .ok (s.ofInteger letter n)
    | none => .error .arguments
  else if letter ∈ ['e', 'E', 'f', 'F', 'g', 'G'] then
    match floatOf? d with
    | some x => .ok (s.ofFloat letter x)
    | none => .error .arguments
  else match charOf? d with
    | some c => .ok (s.fill [] [c] false)
    | none => .error .arguments

/-- The letters of directives. -/
def letters : List Char :=
  ['s', 'r', 'a', 'd', 'i', 'u', 'o', 'x', 'X', 'e', 'E', 'f', 'F', 'g', 'G', 'c']

/-- The flags in front of a directive's width. -/
def takeFlags (s : Spec) : List Char → Spec × List Char
  | '-' :: cs => takeFlags { s with left := true } cs
  | '+' :: cs => takeFlags { s with plus := true } cs
  | ' ' :: cs => takeFlags { s with blank := true } cs
  | '0' :: cs => takeFlags { s with zero := true } cs
  | '#' :: cs => takeFlags { s with alternate := true } cs
  | cs => (s, cs)

/-- The key in parentheses, which may hold balanced parentheses, and what follows it. -/
def takeKey (depth : Nat) : List Char → Option (List Char × List Char)
  | [] => none
  | c :: cs =>
    if c = ')' ∧ depth = 0 then some ([], cs)
    else
      let depth := if c = '(' then depth + 1 else if c = ')' then depth - 1 else depth
      (takeKey depth cs).map fun r => (c :: r.1, r.2)

/-- The next argument. -/
def Supply.next (s : Supply) : Except Fault (Datum × Supply) :=
  match s.rest with
  | d :: ds => .ok (d, { s with rest := ds })
  | [] => .error .arguments

/-- A number written out or a star that takes it from the arguments. -/
def takeNumber (s : Supply) : List Char → Except Fault (Option Int × Supply × List Char)
  | '*' :: cs => do
    match ← s.next with
    | (.atom (.int n), s) => return (some n, s, cs)
    | _ => throw .arguments
  | cs =>
    let digits := cs.takeWhile Char.isDigit
    if digits.isEmpty then .ok (none, s, cs)
    else .ok (some (digitsValue 10 digits), s, cs.drop digits.length)

/-- The message about a letter that no directive has. -/
def badLetter (c : Char) (index : Nat) : String :=
  "unsupported format character '" ++ c.toString ++ "' (0x" ++
    String.ofList (Nat.toDigits 16 c.toNat) ++ ") at index " ++ toString index

/-- One directive after its percent sign: its text, the arguments left, and the characters after
it. -/
def directive (length : Nat) (supply : Supply) (cs : List Char) :
    Except Fault (List Char × Supply × List Char) := do
  let (value, cs) ← match cs with
    | '(' :: cs =>
      match supply.entries, takeKey 0 cs with
      | none, _ => throw .arguments
      | some _, none => throw (.template "incomplete format key")
      | some es, some (key, cs) =>
        match Datum.field? (String.ofList key) es with
        | some d => pure (some d, cs)
        | none => throw .missingKey
    | cs => pure (none, cs)
  let (spec, cs) := takeFlags {} cs
  let (width, supply, cs) ← takeNumber supply cs
  let (precision, supply, cs) ← match cs with
    | '.' :: cs => do
      let (n, supply, cs) ← takeNumber supply cs
      pure (some ((n.getD 0).toNat), supply, cs)
    | cs => pure (none, supply, cs)
  let width := width.getD 0
  let spec := { spec with
    left := spec.left || width < 0, width := width.natAbs, precision := precision }
  let cs := match cs with
    | 'h' :: cs | 'l' :: cs | 'L' :: cs => cs
    | cs => cs
  match cs with
  | [] => throw (.template "incomplete format")
  | c :: rest =>
    if c ∈ letters then
      let (d, supply) ← match value with
        | some d => pure (d, supply)
        | none => supply.next
      return (← write spec c d, supply, rest)
    else throw (.template (badLetter c (length - cs.length)))

/-- The template filled from the supply; the number of steps is bounded by the template's length. -/
def fillFrom (length : Nat) : Nat → Supply → List Char → Except Fault (List Char × Supply)
  | 0, supply, _ => .ok ([], supply)
  | _ + 1, supply, [] => .ok ([], supply)
  | steps + 1, supply, '%' :: '%' :: cs => do
    let (rest, supply) ← fillFrom length steps supply cs
    return ('%' :: rest, supply)
  | steps + 1, supply, '%' :: cs => do
    let (text, supply, cs) ← directive length supply cs
    let (rest, supply) ← fillFrom length steps supply cs
    return (text ++ rest, supply)
  | steps + 1, supply, c :: cs => do
    let (rest, supply) ← fillFrom length steps supply cs
    return (c :: rest, supply)

/-- The template with its directives filled; a single mapping that is not empty is asked by keys. -/
def filled (template : String) (args : List Datum) : Except Fault String := do
  let cs := template.toList
  let entries := match args with
    | [.map (e :: es)] => some (e :: es)
    | _ => none
  let (text, left) ← fillFrom cs.length cs.length ⟨args, entries⟩ cs
  if entries.isNone && !left.rest.isEmpty then throw .arguments
  return String.ofList text

/-- The message of a record: the template as it is if there are no arguments. -/
def message (template : String) (args : List Datum) : Except Fault String :=
  if args.isEmpty then .ok template else filled template args

end TableSchema.Percent
