import TableSchema.Settings
import TableSchema.Sql.Clause

/-!
# Definitions of enumerations, columns and tables

A table is created by one statement: its columns first, then after an empty line its primary key,
its foreign keys and its check constraints. Composing a statement fails if the name of a column is
no text or an integer is too long; writing it out fails if a string constant holds a character of
code zero.
-/

namespace TableSchema

/-- How names are written under the settings. -/
def Settings.policy (s : Settings) : Sql.IdentifierPolicy :=
  .ofFlag s.quoteIdentifiers

namespace Sql

open Fragment

/-- The statement that creates an enumeration under the settings. -/
def enumDefinition (s : Settings) (t : EnumType) : Fragments :=
  if s.guardEnumTypes then createEnumGuarded t.name (s.policy.name t.name) t.values
  else createEnum (s.policy.name t.name) t.values

/-- The name of a column's type; the name of an enumeration is an identifier. -/
def typeName (p : IdentifierPolicy) : ValueType → Fragment
  | .enumeration t => p.name t.name
  | t => verbatim t.sqlName

/-- The name of a column. -/
def columnName (p : IdentifierPolicy) : Atom → Except Fault Fragment
  | .text s => .ok (p.name s)
  | _ => .error .nameNotText

/-- The expression of a default: string constants are quoted, all else is verbatim. -/
def defaultExpression : ColumnDefault → Except Fault Fragment
  | .expression s => .ok (verbatim s)
  | .literal (.bool b) => .ok (verbatim (if b then "TRUE" else "FALSE"))
  | .literal (.text s) => .ok (literal s)
  | .literal (.float x) => .ok (verbatim x.text)
  | .literal (.int n) =>
    match Number.integerText n with
    | .ok s => .ok (verbatim s)
    | .error _ => .error .longInteger

/-- The clause of a default, if there is one. -/
def defaultClause : Option ColumnDefault → Except Fault Fragments
  | none => .ok []
  | some d => do return [verbatim " DEFAULT ", ← defaultExpression d]

/-- The line of a column: name, type, and what else there is to say. -/
def columnDefinition (p : IdentifierPolicy) (c : Column) : Except Fault Fragments := do
  let name ← columnName p c.name
  let default ← defaultClause c.default
  return [name, verbatim " ", typeName p c.type] ++
    (if c.nullable then [] else [verbatim " NOT NULL"]) ++ default

/-- The constraints of a table: primary key, foreign keys, checks. -/
def constraintDefinitions (p : IdentifierPolicy) (t : Table) : List Fragments :=
  (if t.primaryKeys.isEmpty then [] else [primaryKey p t.primaryKeys]) ++
    t.foreignKeys.map (foreignKey p) ++ t.constraints.map fun c => check p c.name c.expression

/-- The statement that creates a table. -/
def tableDefinition (s : Settings) (t : Table) : Except Fault Fragments := do
  let p := s.policy
  let indent := verbatim s.sqlIndentText
  let columns ← t.columns.mapM (columnDefinition p)
  let constraints := constraintDefinitions p t
  let body := joinWith ",\n" (columns.map (indent :: ·)) ++
    (if constraints.isEmpty then []
    else verbatim ",\n\n" :: joinWith ",\n" (constraints.map (indent :: ·)))
  return [verbatim "CREATE TABLE IF NOT EXISTS ", p.name t.name, verbatim " (\n"] ++ body ++
    [verbatim "\n);"]

end Sql

end TableSchema
