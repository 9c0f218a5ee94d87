import TableSchema.Sql.Fragment
import TableSchema.Table

/-!
# Clauses and statements of SQL

The statements for extensions and enumerations, the constraints of tables, and the statements that
drop what was created.  Names of tables, columns and types follow the identifier policy: bare, or
quoted; names of extensions are always quoted.
-/

namespace TableSchema.Sql

open Fragment

/-- How names of tables, columns and types are written. -/
inductive IdentifierPolicy where
  | bare
  | quoted
deriving DecidableEq, Repr

/-- The policy that quotes on demand. -/
def IdentifierPolicy.ofFlag (quote : Bool) : IdentifierPolicy :=
  if quote then .quoted else .bare

namespace IdentifierPolicy

/-- A name under the policy. -/
def name (p : IdentifierPolicy) (s : String) : Fragment :=
  match p with
  | .bare => .verbatim s
  | .quoted => .identifier s

/-- Names with commas between them. -/
def names (p : IdentifierPolicy) (ss : List String) : Fragments :=
  joinWith ", " (ss.map fun s => [p.name s])

end IdentifierPolicy

/-- The statement that creates an extension unless it exists. -/
def createExtension (name : String) : Fragments :=
  [verbatim "CREATE EXTENSION IF NOT EXISTS ", identifier name, verbatim ";"]

/-- The statement that drops an extension if it exists. -/
def dropExtension (name : String) : Fragments :=
  [verbatim "DROP EXTENSION IF EXISTS ", identifier name, verbatim ";"]

/-- The values of an enumeration as string constants. -/
def enumValues (values : List String) : Fragments :=
  joinWith ", " (values.map fun v => [literal v])

/-- The statement that creates an enumeration. -/
def createEnum (name : Fragment) (values : List String) : Fragments :=
  [verbatim "CREATE TYPE ", name, verbatim " AS ENUM ("] ++ enumValues values ++ [verbatim ");"]

/-- The block that creates an enumeration unless a type of the given catalogue name exists. -/
def createEnumGuarded (catalogueName : String) (name : Fragment) (values : List String) :
    Fragments :=
  [verbatim ("DO $$\nBEGIN\n" ++
      "    IF NOT EXISTS (SELECT 1 FROM pg_type WHERE typname = "),
    literal catalogueName, verbatim ") THEN\n        "] ++
  createEnum name values ++
  [verbatim "\n    END IF;\nEND$$;"]

/-- The primary key of a table. -/
def primaryKey (p : IdentifierPolicy) (columns : List String) : Fragments :=
  [verbatim "PRIMARY KEY ("] ++ p.names columns ++ [verbatim ")"]

/-- A foreign key of a table. -/
def foreignKey (p : IdentifierPolicy) (k : ForeignKey) : Fragments :=
  [verbatim "FOREIGN KEY ("] ++ p.names k.localColumns ++
  [verbatim ") REFERENCES ", p.name k.table, verbatim " ("] ++ p.names k.foreignColumns ++
  [verbatim ") ON DELETE ", verbatim (Vocabulary.word k.deleteAction), verbatim " ON UPDATE ",
    verbatim (Vocabulary.word k.updateAction)]

/-- A check constraint of a table; the expression is written verbatim. -/
def check (p : IdentifierPolicy) (name expression : String) : Fragments :=
  [verbatim "CONSTRAINT ", p.name name, verbatim " CHECK (", verbatim expression, verbatim ")"]

/-- The statement that drops a table if it exists. -/
def dropTable (p : IdentifierPolicy) (name : String) : Fragments :=
  [verbatim "DROP TABLE IF EXISTS ", p.name name, verbatim ";"]

/-- The statement that drops a type if it exists. -/
def dropType (p : IdentifierPolicy) (name : String) : Fragments :=
  [verbatim "DROP TYPE IF EXISTS ", p.name name, verbatim ";"]

end TableSchema.Sql
