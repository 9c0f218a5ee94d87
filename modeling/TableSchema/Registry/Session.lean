import TableSchema.Datum.Text
import TableSchema.Registry

/-!
# Work on a registry with its log

The operations on a registry together with the records that they write. What an operation does to
the registry is said by the functions without a log; here every operation runs in a block that
names it and reports what it did.
-/

namespace TableSchema

open Log

namespace Loggers

/-- The source of the registry's records. -/
def registry : Logger := .ofComponent "pgschema.schema.registry" .registry

/-- The source of the validation's records. -/
def validator : Logger := .ofComponent "pgschema.schema.validator" .validator

/-- The source of the records about scripts. -/
def sql : Logger := .ofComponent "pgschema.schema.sql_generator" .sqlGenerator

/-- The source of the records about declarations. -/
def typescript : Logger := .ofComponent "pgschema.schema.ts_generator" .typeGenerator

end Loggers

/-- Why no text was generated. -/
inductive GenerationError where
  | invalid (issues : List Issue)
  | sql (fault : Sql.Fault)
  | typescript (fault : TypeScript.Fault)
deriving DecidableEq, Repr

namespace Session

/-- Writes records of messages one after the other. -/
def logAll (l : Logger) : List (Level × String) → Logged Unit
  | [] => pure ()
  | m :: ms => do
    l.log m.1 m.2
    logAll l ms

/-- What is noted about the issues of a table. -/
def issueNote (t : Table) (issues : List Issue) : List (Level × String) :=
  if issues.isEmpty then []
  else [(debug, "Table " ++ t.name ++ ": " ++ toString issues.length ++ " validation issue(s)")]

/-- The notes about the tables of a schema that have issues. -/
def schemaNotes (tables : List Table) : List (Level × String) :=
  tables.flatMap fun t => issueNote t (Validation.tableIssues tables t)

/-- The groups of a report with those of further issues. -/
def reportGroups (groups : List (String × List String)) :
    List Issue → List (String × List String)
  | [] => groups
  | i :: is => reportGroups (addTo i.table i.message groups) is

/-- One error for each table with issues. -/
def reportNotes (issues : List Issue) : List (Level × String) :=
  (reportGroups [] issues).map fun g => (error, Issue.logLine g)

/-- What is noted when an enumeration is registered: that it is new, or that it differs from the one
that is kept. -/
def enumNote (types : Sql.CustomTypes) (e : EnumType) : List (Level × String) :=
  match lookupFirst e.name types with
  | none => [(debug, "Registered custom type: " ++ e.name)]
  | some kept =>
    if kept.values = e.values then []
    else [(warning, "Custom type " ++ e.name ++ " redeclared with values " ++
      textList e.values ++ "; keeping " ++ textList kept.values)]

/-- The notes about enumerations that are registered one after the other. -/
def enumNotes (types : Sql.CustomTypes) : List EnumType → List (Level × String)
  | [] => []
  | e :: es => enumNote types e ++ enumNotes (Registry.registerEnum types e) es

/-- The note about an accepted table. -/
def tableNote (t : Table) : Level × String :=
  (debug, "Registered table: " ++ t.name ++ " (" ++ toString t.columns.length ++ " columns, " ++
    toString t.foreignKeys.length ++ " foreign keys)")

/-- Adds an extension. -/
def addExtension (r : Registry) (name : String) : Logged Registry := do
  unless r.extensions.contains name do
    Loggers.registry.log debug ("Registered extension: " ++ name)
  return r.addExtension name

/-- Adds extensions. -/
def addExtensions (r : Registry) : List String → Logged Registry
  | [] => return r
  | n :: ns => do addExtensions (← addExtension r n) ns

/-- Adds a table if it is accepted. -/
def addTable (r : Registry) (t : Table) : Logged (Registry × Except RegistrationError Unit) :=
  within { table := some t.name, operation := some "add_table" } do
    match r.accept t with
    | .ok r' =>
      logAll Loggers.registry (enumNotes r.customTypes t.columnEnums ++ [tableNote t])
      return (r', .ok ())
    | .error (.duplicateTable n) => return (r, .error (.duplicateTable n))
    | .error (.invalid issues) =>
      logAll Loggers.validator (issueNote t issues)
      logAll Loggers.registry (reportNotes issues)
      return (r, .error (.invalid issues))

/-- Adds tables up to the first that is refused. -/
def addTables (r : Registry) : List Table → Logged (Registry × Except RegistrationError Unit)
  | [] => return (r, .ok ())
  | t :: ts => do
    match ← addTable r t with
    | (r, .ok ()) => addTables r ts
    | (r, .error e) => return (r, .error e)

/-- Checks the whole schema and reports its issues. -/
def validate (r : Registry) : Logged (List Issue) :=
  within { operation := some "validate" } do
    logAll Loggers.validator (schemaNotes r.tables)
    logAll Loggers.registry (reportNotes r.issues)
    return r.issues

/-- Runs a generator in a block that names it, if the schema is valid. -/
def generate (r : Registry) (operation : String)
    (work : Logged (Except GenerationError String)) : Logged (Except GenerationError String) := do
  let issues ← validate r
  if issues.isEmpty then within { operation := some operation } work
  else return .error (.invalid issues)

/-- Writes the create script of tables, extensions and enumerations. -/
def createScript (s : Settings) (tables : List Table) (extensions : List String)
    (types : Sql.CustomTypes) : Logged (Except GenerationError String) := do
  logAll Loggers.sql ((Sql.reachedTables s tables extensions types).map fun t =>
    (debug, "Generating table " ++ t.name))
  match Sql.createScript s tables extensions types with
  | .error f => return .error (.sql f)
  | .ok text =>
    Loggers.sql.log info ("Generated SQL schema: " ++ toString extensions.length ++
      " extensions, " ++ toString types.length ++ " types, " ++ toString tables.length ++ " tables")
    return .ok text

/-- Writes the drop script of tables, extensions and enumerations. -/
def dropScript (s : Settings) (tables : List Table) (extensions : List String)
    (types : Sql.CustomTypes) : Logged (Except GenerationError String) := do
  let names := types.map (·.1)
  Loggers.sql.log info ("Generated drop script: " ++
    toString (Sql.dropStatements tables extensions names).length ++ " statements")
  return (Sql.dropScript s tables extensions names).mapError .sql

/-- Writes the declarations of tables. -/
def declarations (s : Settings) (tables : List Table) :
    Logged (Except GenerationError String) := do
  match TypeScript.declarations s tables with
  | .error f => return .error (.typescript f)
  | .ok text =>
    Loggers.typescript.log info ("Generated TypeScript: " ++
      toString (TypeScript.collectEnums tables).length ++ " enums, " ++
      toString tables.length ++ " types")
    return .ok text

/-- Generates the create script of the schema. -/
def generateSql (r : Registry) : Logged (Except GenerationError String) :=
  generate r "generate_sql_schema" (createScript r.settings r.tables r.extensions r.customTypes)

/-- Generates the drop script of the schema. -/
def generateDrop (r : Registry) : Logged (Except GenerationError String) :=
  generate r "generate_drop_sql" (dropScript r.settings r.tables r.extensions r.customTypes)

/-- Generates the TypeScript declarations of the schema. -/
def generateTypescript (r : Registry) : Logged (Except GenerationError String) :=
  generate r "generate_typescript" (declarations r.settings r.tables)

end Session

end TableSchema
