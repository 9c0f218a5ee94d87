import TableSchema.Text.Digit
import TableSchema.Text.Runs

/-!
# Names of another case

Names of tables, columns and enumeration values are turned into identifiers of TypeScript. The
words of a name are its runs of ASCII letters and digits; every word but the first of a camel-case
name begins with a capital, and an underscore is put before a digit that would come first. A name
without words stays as it is.
-/

namespace TableSchema.Text

/-- The words of a name. -/
def nameWords (cs : List Char) : List (List Char) :=
  runs (fun c => !isAlphanumeric c) cs

/-- The word with its first letter in upper case. -/
def capitalized : List Char → List Char
  | [] => []
  | c :: cs => c.toUpper :: cs

/-- The characters with an underscore before them if the first is a digit. -/
def notDigitFirst : List Char → List Char
  | [] => []
  | c :: cs => if c.isDigit then '_' :: c :: cs else c :: cs

/-- The camel-case form of a name: the first word as written, the following words capitalized. -/
def camelChars (cs : List Char) : List Char :=
  match nameWords cs with
  | [] => cs
  | w :: ws => notDigitFirst (w ++ (ws.map capitalized).flatten)

/-- The Pascal-case form of a name: every word capitalized. -/
def pascalChars (cs : List Char) : List Char :=
  match nameWords cs with
  | [] => cs
  | w :: ws => notDigitFirst (((w :: ws).map capitalized).flatten)

/-- The name in camel case. -/
def camelCase (s : String) : String :=
  String.ofList (camelChars s.toList)

/-- The name in Pascal case. -/
def pascalCase (s : String) : String :=
  String.ofList (pascalChars s.toList)

/-- The ending of a noun after a count: nothing after one, `s` after any other number. -/
def pluralEnding (isOne : Bool) : String :=
  if isOne then "" else "s"

/-- The blocks that are not empty with the separator between neighbours. -/
def joinBlocks (blocks : List String) (separator : String) : String :=
  separator.intercalate (blocks.filter fun b => b != "")

/-- A count with its noun, the plural with `s`. -/
def counted (n : Nat) (noun : String) : String :=
  toString n ++ " " ++ noun ++ pluralEnding (n == 1)

end TableSchema.Text
