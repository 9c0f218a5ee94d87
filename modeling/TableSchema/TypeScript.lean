import TableSchema.Settings
import TableSchema.Table
import TableSchema.Text.JsonString
import TableSchema.Text.Naming

/-!
# Declarations of TypeScript

Every enumeration that a column uses is declared once, by its first occurrence, and every table is
declared as a record type whose fields are the columns in camel case.
-/

namespace TableSchema.TypeScript

/-- A declaration cannot be written because the name of a column is no text. -/
inductive Fault where
  | nameNotText
deriving DecidableEq, Repr

/-- The enumerations of the tables, of each name the first. -/
def collectEnums (tables : List Table) : List EnumType :=
  firstsBy (·.name) (tables.flatMap (·.enumTypes))

/-- One member of an enumeration. -/
def memberLine (s : Settings) (value : String) : String :=
  s.typescriptIndentText ++ Text.pascalCase value ++ " = " ++ Text.jsonString value ++ ","

/-- The declaration of an enumeration. -/
def enumDeclaration (s : Settings) (t : EnumType) : String :=
  "export enum " ++ t.typescriptName ++ " \x7b\n" ++
    "\n".intercalate (t.values.map (memberLine s)) ++ "\n\x7d"

/-- The name of the field for a column. -/
def fieldName (c : Column) : Except Fault String :=
  match c.nameText? with
  | some n => .ok (Text.camelCase n)
  | none => .error .nameNotText

/-- The field for a column. -/
def fieldLine (s : Settings) (c : Column) : Except Fault String := do
  let name ← fieldName c
  let type := c.type.typescriptName
  return s.typescriptIndentText ++
    if !c.nullable then name ++ ": " ++ type ++ ";"
    else if s.showsUnions then name ++ ": " ++ type ++ " | null;"
    else name ++ "?: " ++ type ++ ";"

/-- The declaration of a record type. -/
def recordDeclaration (s : Settings) (t : Table) : Except Fault String := do
  let fields ← t.columns.mapM (fieldLine s)
  return "export type " ++ t.typeName ++ " = \x7b\n" ++ "\n".intercalate fields ++ "\n\x7d;"

/-- The banner of the declarations. -/
def banner (s : Settings) (marker : String) : String :=
  "/*\n * " ++ s.bannerLine marker ++ "\n */\n"

/-- All declarations of the tables: enumerations first, then record types. -/
def declarations (s : Settings) (tables : List Table) : Except Fault String := do
  let enums := (collectEnums tables).map (enumDeclaration s)
  let records ← tables.mapM (recordDeclaration s)
  return s.wrap (banner s)
    (Text.joinBlocks ["\n\n".intercalate enums, "\n\n".intercalate records] "\n\n")

end TableSchema.TypeScript
