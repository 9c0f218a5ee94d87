import TableSchema.Sql.Definition
import TableSchema.Text.Naming

/-!
# Scripts of SQL

The create script holds the extensions, the enumerations and the tables in the order of their
registration.  The drop script holds the tables in reverse order, then the types, then the
extensions.
-/

namespace TableSchema.Sql

/-- A statement of a script. -/
inductive Statement where
  | createExtension (name : String)
  | createEnum (type : EnumType)
  | createTable (table : Table)
  | dropTable (name : String)
  | dropType (name : String)
  | dropExtension (name : String)
deriving DecidableEq, Repr

namespace Statement

/-- The fragments of a statement. -/
def compose (s : Settings) : Statement → Except Fault Fragments
  | .createExtension n => .ok (Sql.createExtension n)
  | .createEnum t => .ok (enumDefinition s t)
  | .createTable t => tableDefinition s t
  | .dropTable n => .ok (Sql.dropTable s.policy n)
  | .dropType n => .ok (Sql.dropType s.policy n)
  | .dropExtension n => .ok (Sql.dropExtension n)

/-- The text of a statement. -/
def text (s : Settings) (st : Statement) : Except Fault String :=
  st.compose s >>= render

end Statement

/-- Enumerations under the names that they are registered by. -/
abbrev CustomTypes := List (String × EnumType)

/-- The statements that create extensions. -/
def extensionStatements (extensions : List String) : List Statement :=
  extensions.map .createExtension

/-- The statements that create enumerations. -/
def enumStatements (types : CustomTypes) : List Statement :=
  types.map fun e => .createEnum e.2

/-- The statements that create tables. -/
def tableStatements (tables : List Table) : List Statement :=
  tables.map .createTable

/-- The statements of the create script. -/
def createStatements (tables : List Table) (extensions : List String) (types : CustomTypes) :
    List Statement :=
  extensionStatements extensions ++ enumStatements types ++ tableStatements tables

/-- The statements of the drop script. -/
def dropStatements (tables : List Table) (extensions : List String) (typeNames : List String) :
    List Statement :=
  tables.reverse.map (fun t => .dropTable t.name) ++ typeNames.map .dropType ++
    extensions.map .dropExtension

/-- The banner of a script. -/
def banner (s : Settings) (marker : String) : String :=
  "--\n-- " ++ s.bannerLine marker ++ "\n--\n"

/-- The texts of statements. -/
def texts (s : Settings) (sts : List Statement) : Except Fault (List String) :=
  sts.mapM (Statement.text s)

/-- The blocks of extensions and enumerations. -/
def preludeBlocks (s : Settings) (extensions : List String) (types : CustomTypes) :
    Except Fault (List String) := do
  let extensionTexts ← texts s (extensionStatements extensions)
  let enumTexts ← texts s (enumStatements types)
  return ["\n".intercalate extensionTexts, "\n".intercalate enumTexts]

/-- The create script. -/
def createScript (s : Settings) (tables : List Table) (extensions : List String)
    (types : CustomTypes) : Except Fault String := do
  let blocks ← preludeBlocks s extensions types
  let tableTexts ← texts s (tableStatements tables)
  return s.wrap (banner s)
    (Text.joinBlocks (blocks ++ ["\n\n".intercalate tableTexts]) "\n\n")

/-- The drop script. -/
def dropScript (s : Settings) (tables : List Table) (extensions : List String)
    (typeNames : List String) : Except Fault String := do
  let sts ← texts s (dropStatements tables extensions typeNames)
  return s.wrap (banner s) ("\n".intercalate sts)

/-- The elements up to the first that fails the test, that one included. -/
def throughFirst {α : Type} (p : α → Bool) : List α → List α
  | [] => []
  | a :: as => if p a then a :: throughFirst p as else [a]

/-- The tables that are reached when the create script is written: all up to the first that cannot
be written, and none if an enumeration cannot. -/
def reachedTables (s : Settings) (tables : List Table) (extensions : List String)
    (types : CustomTypes) : List Table :=
  match preludeBlocks s extensions types with
  | .error _ => []
  | .ok _ =>
    throughFirst (fun t => ((Statement.createTable t).text s).toOption.isSome) tables

end TableSchema.Sql
