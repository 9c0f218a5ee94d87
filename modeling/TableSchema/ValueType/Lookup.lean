import TableSchema.Number.IntegerText
import TableSchema.Text.Case
import TableSchema.ValueType

/-!
# Types by their names

A type is looked up by a text in any letter case and spacing: one of the names of a scalar type, or
a name of a character type with the length in parentheses. The length is a decimal numeral in
digits of any script.
-/

namespace TableSchema

open TableSchema.Text

/-- Why a text names no type. -/
inductive LookupFault where
  /-- The text is no name of a type. -/
  | unknown
  /-- The numeral of the length has too many digits. -/
  | longNumeral (digits : Nat)
  /-- The length is zero. -/
  | lengthTooSmall
  /-- The length exceeds the greatest one. -/
  | lengthTooLarge
deriving DecidableEq, Repr

namespace Lookup

/-- The names of scalar types. -/
def scalarNames : List (String × ScalarKind) := [
    ("smallint", .smallint), ("int2", .smallint), ("integer", .integer), ("int", .integer),
    ("int4", .integer), ("bigint", .bigint), ("int8", .bigint), ("real", .real),
    ("float4", .real), ("double", .double), ("double precision", .double), ("float8", .double),
    ("smallserial", .smallserial), ("serial", .serial), ("bigserial", .bigserial),
    ("boolean", .boolean), ("bool", .boolean), ("timestamp", .timestamp),
    ("timestamp without time zone", .timestamp), ("text", .text), ("uuid", .uuid)]

/-- The names of character types. -/
def characterNames : List (String × CharacterKind) := [
    ("char", .char), ("character", .char), ("varchar", .varchar),
    ("character varying", .varchar)]

/-- The text in lower case with single spaces between its words. -/
def normalized (s : String) : List Char :=
  collapse (lowerCase (trimBy isBlank s.toList))

/-- The character kind and the numeral of a name with a length in parentheses. -/
def character? (cs : List Char) : Option (CharacterKind × List Char) :=
  let base := cs.takeWhile (· != '(')
  let inner := ((cs.drop base.length).drop 1).dropWhile (· == ' ')
  let numeral := inner.takeWhile isDigit
  let rest := (inner.drop numeral.length).dropWhile (· == ' ')
  if numeral.isEmpty || rest != [')'] then none
  else
    (lookupFirst (String.ofList (trimBy (· == ' ') base)) characterNames).map fun k => (k, numeral)

/-- The character type of a kind with the length that the numeral gives. -/
def character (kind : CharacterKind) (numeral : List Char) : Except LookupFault ValueType :=
  match Number.readInteger 10 numeral with
  | .error (.tooLong digits) => .error (.longNumeral digits)
  | .error .malformed => .error .unknown
  | .ok n =>
    if h : 1 ≤ n.toNat then
      if h' : n.toNat ≤ maxCharacterLength then .ok (.character ⟨kind, n.toNat, h, h'⟩)
      else .error .lengthTooLarge
    else .error .lengthTooSmall

end Lookup

/-- The type that a text names. -/
def lookupType (spec : String) : Except LookupFault ValueType :=
  let cs := Lookup.normalized spec
  match lookupFirst (String.ofList cs) Lookup.scalarNames with
  | some k => .ok (.scalar k)
  | none =>
    match Lookup.character? cs with
    | some (kind, numeral) => Lookup.character kind numeral
    | none => .error .unknown

end TableSchema
