import TableSchema.Datum.Text
import TableSchema.Text.JsonString

/-!
# Data as JSON

A datum is written as ASCII JSON with a space after each comma and colon.  Numbers keep their texts,
infinities and not-a-number have names.  What JSON has no form for is written as the string of its
plain text; a key has to be a text, a number, a truth value or null.
-/

namespace TableSchema

open TableSchema.Number

/-- Why a datum has no JSON text. -/
inductive JsonFault where
  /-- A key of a mapping has no form in JSON. -/
  | key
  /-- An integer has too many digits. -/
  | numeral (fault : NumeralFault)
deriving DecidableEq, Repr

/-- The JSON text of a floating point number. -/
def jsonFloat : Binary64 → String
  | .nan => "NaN"
  | .infinity false => "Infinity"
  | .infinity true => "-Infinity"
  | x => x.text

/-- A rendered text whose fault is one of JSON. -/
def jsonRendered (r : Rendered) : Except JsonFault String :=
  r.mapError .numeral

/-- The JSON text of an atom. -/
def Atom.json : Atom → Except JsonFault String
  | .null => .ok "null"
  | .bool b => .ok (if b then "true" else "false")
  | .int n => jsonRendered (integerText n)
  | .float x => .ok (jsonFloat x)
  | .text s => .ok (Text.jsonString s)
  | a => Text.jsonString <$> jsonRendered a.plain

namespace Datum

/-- The JSON text of a key. -/
def jsonKey : Datum → Except JsonFault String
  | .atom (.text s) => .ok (Text.jsonString s)
  | .atom (.bytes _) | .atom (.date _) | .atom (.moment _) => .error .key
  | .atom a => Text.jsonString <$> a.json
  | _ => .error .key

mutual

/-- The JSON text of a datum. -/
def json : Datum → Except JsonFault String
  | .atom a => a.json
  | .list items | .tuple items => do return "[" ++ ", ".intercalate (← jsonAll items) ++ "]"
  | .map entries => do return "\x7b" ++ ", ".intercalate (← jsonEntries entries) ++ "\x7d"
  | d => Text.jsonString <$> jsonRendered d.plain

/-- The JSON texts of data. -/
def jsonAll : List Datum → Except JsonFault (List String)
  | [] => .ok []
  | x :: xs => do return (← json x) :: (← jsonAll xs)

/-- The JSON texts of entries. -/
def jsonEntries : List (Datum × Datum) → Except JsonFault (List String)
  | [] => .ok []
  | (k, v) :: es => do return ((← jsonKey k) ++ ": " ++ (← json v)) :: (← jsonEntries es)

end

end Datum

end TableSchema
