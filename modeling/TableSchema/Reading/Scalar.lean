import TableSchema.Number.FloatText
import TableSchema.Reading.Basic
import TableSchema.Text.Blank
import TableSchema.Text.Case

/-!
# Reading atoms

Texts, lengths, flags and constants are read from atoms with some tolerance: bytes stand for the
text that they encode, whole numbers may be written as texts or as floating point numbers, and
flags have several spellings.
-/

namespace TableSchema.Reading

open TableSchema.Number TableSchema.Text

/-- The text that bytes encode. -/
def utf8? (bytes : List UInt8) : Option String :=
  String.fromUTF8? ⟨bytes.toArray⟩

/-- A text, or bytes that encode one. -/
def text : Datum → Reading String
  | .atom (.text s) => .ok s
  | .atom (.bytes bs) =>
    match utf8? bs with
    | some s => .ok s
    | none => fault .invalidUtf8
  | _ => fault .notText

/-- A text of at least one and at most 63 characters. -/
def name (d : Datum) : Reading { s : String // FitsName s } :=
  (text d).andThen fun s =>
    if h : FitsName s then .ok ⟨s, h⟩
    else fault (if s.length < 1 then .tooShortText else .tooLongText)

/-- A text that is not empty. -/
def nonempty (d : Datum) : Reading { s : String // s ≠ "" } :=
  (text d).andThen fun s => if h : s ≠ "" then .ok ⟨s, h⟩ else fault .tooShortText

/-- A text without the white space of Unicode at its ends. -/
def trimmed (s : String) : List Char :=
  trimBy (fun c => isBlank c && !(28 ≤ c.toNat && c.toNat ≤ 31)) s.toList

/-- The whole number that a text of ASCII digits gives; zeros may follow a point, and single
underscores may stand between digits. -/
def wholeOfText (s : String) : Except Fault Int :=
  let cs := trimmed s
  let (negative, body) := splitSign cs
  let whole := body.takeWhile (· != '.')
  let tail := body.drop whole.length
  let tailOk := tail.isEmpty || (1 < tail.length && (tail.drop 1).all (· == '0'))
  if maxDigits < cs.length then .error .integerTooLarge
  else if whole.isEmpty || !tailOk || !wellSpaced whole ||
      !(whole.all fun c => c == '_' || c.isDigit) then .error .unreadableInteger
  else .ok (signed negative (digitsValue 10 whole))

/-- The least whole number above the range of 64 bits with a sign, `2 ^ 63`. -/
def wordBound : Nat := 9223372036854775808

/-- The whole number that a floating point number is, within the range of 64 bits. -/
def wholeOfFloat (x : Binary64) : Except Fault Int :=
  if !x.isFinite then .error .notFinite
  else
    match x.toInt? with
    | none => .error .fractional
    | some n => if n.natAbs < wordBound then .ok n else .error .integerTooLarge

/-- A whole number in one of its forms. -/
def whole : Datum → Except Fault Int
  | .atom (.bool b) => .ok (if b then 1 else 0)
  | .atom (.int n) => .ok n
  | .atom (.float x) => wholeOfFloat x
  | .atom (.text s) => wholeOfText s
  | .atom (.bytes bs) =>
    match utf8? bs with
    | some s => wholeOfText s
    | none => .error .unreadableInteger
  | _ => .error .notInteger

/-- The length of a character type. -/
def characterLength (d : Datum) : Reading { n : Nat // 1 ≤ n ∧ n ≤ maxCharacterLength } :=
  match whole d with
  | .error f => fault f
  | .ok n =>
    if h : 1 ≤ n.toNat then
      if h' : n.toNat ≤ maxCharacterLength then .ok ⟨n.toNat, h, h'⟩ else fault .tooLarge
    else fault .tooSmall

/-- The words for true. -/
def trueWords : List String := ["1", "on", "t", "true", "y", "yes"]

/-- The words for false. -/
def falseWords : List String := ["0", "off", "f", "false", "n", "no"]

/-- The flag that a word of any ASCII case stands for. -/
def flagOfText (s : String) : Except Fault Bool :=
  let w := String.ofList (lowerAscii s.toList)
  if trueWords.contains w then .ok true
  else if falseWords.contains w then .ok false
  else .error .unreadableBool

/-- The flag that a whole number stands for. -/
def flagOfWhole (n : Int) : Except Fault Bool :=
  if n = 0 then .ok false else if n = 1 then .ok true else .error .unreadableBool

/-- A flag in one of its forms. -/
def flagOf : Datum → Except Fault Bool
  | .atom (.bool b) => .ok b
  | .atom (.int n) =>
    if -(wordBound : Int) ≤ n ∧ n < wordBound then flagOfWhole n else .error .notBool
  | .atom (.float x) =>
    match wholeOfFloat x with
    | .ok n => flagOfWhole n
    | .error _ => .error .notBool
  | .atom (.text s) => flagOfText s
  | .atom (.bytes bs) =>
    match utf8? bs with
    | some s => flagOfText s
    | none => .error .unreadableBool
  | _ => .error .notBool

/-- A flag. -/
def flag (d : Datum) : Reading Bool :=
  match flagOf d with
  | .ok b => .ok b
  | .error f => fault f

/-- The faults of a datum that is no constant of any kind. -/
def noConstant (bool int float text : Fault) : Reading Constant :=
  .faults [⟨[.field "bool"], bool⟩, ⟨[.field "int"], int⟩, ⟨[.field "float"], float⟩,
    ⟨[.field "str"], text⟩]

/-- The constant that bytes stand for: the first of flag, whole number, floating point number and
text that their text can be read as. -/
def constantOfBytes (bs : List UInt8) : Reading Constant :=
  match utf8? bs with
  | none => noConstant .unreadableBool .unreadableInteger .unreadableFloat .invalidUtf8
  | some s =>
    match flagOfText s, wholeOfText s, readBinary64 s.toList with
    | .ok b, _, _ => .ok (.bool b)
    | _, .ok n, _ => .ok (.int n)
    | _, _, some x => .ok (.float x)
    | _, _, none => .ok (.text s)

/-- A constant: a truth value, a number or a text as it is. -/
def constant : Datum → Reading Constant
  | .atom (.bool b) => .ok (.bool b)
  | .atom (.int n) => .ok (.int n)
  | .atom (.float x) => .ok (.float x)
  | .atom (.text s) => .ok (.text s)
  | .atom (.bytes bs) => constantOfBytes bs
  | _ => noConstant .notBool .notInteger .notFloat .notText

/-- A member of a vocabulary, given by its word. -/
def word {α : Type} [Vocabulary α] (otherwise : Fault) (d : Datum) : Reading α :=
  match d.text?.bind Vocabulary.ofWord? with
  | some a => .ok a
  | none => fault otherwise

end TableSchema.Reading
