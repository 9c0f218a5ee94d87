import TableSchema.Log.Trace
import TableSchema.Sql.Script
import TableSchema.TypeScript
import TableSchema.Validation

/-!
# Registries

A registry holds the extensions, the tables and the enumerations of one schema in the order of
their registration. A table is accepted if its name is new and it has no issues among the tables
registered before; the enumerations of its columns are registered with it, of each name the first.
-/

namespace TableSchema

/-- Why a table is refused or a schema is not valid. -/
inductive RegistrationError where
  | duplicateTable (name : String)
  | invalid (issues : List Issue)
deriving DecidableEq, Repr

/-- The message of a refusal. -/
def RegistrationError.message : RegistrationError → String
  | .duplicateTable name => "Table with name \"" ++ name ++ "\" already exists"
  | .invalid issues => Issue.report issues

/-- A schema under construction and the settings of its output. -/
structure Registry where
  settings : Settings := {}
  tables : List Table := []
  extensions : List String := []
  customTypes : Sql.CustomTypes := []
deriving DecidableEq, Repr

namespace Registry

instance : Inhabited Registry := ⟨{}⟩

/-- The table with this name. -/
def table? (r : Registry) (name : String) : Option Table :=
  r.tables.find? fun t => t.name == name

/-- A table with this name is registered. -/
def contains (r : Registry) (name : String) : Bool :=
  (r.table? name).isSome

/-- The registry with an extension; one that is there is not added again. -/
def addExtension (r : Registry) (name : String) : Registry :=
  if r.extensions.contains name then r else { r with extensions := r.extensions ++ [name] }

/-- The enumerations with another one, unless its name is taken. -/
def registerEnum (types : Sql.CustomTypes) (e : EnumType) : Sql.CustomTypes :=
  if (lookupFirst e.name types).isSome then types else types ++ [(e.name, e)]

/-- The enumerations with others one after the other. -/
def registerEnums (types : Sql.CustomTypes) (es : List EnumType) : Sql.CustomTypes :=
  es.foldl registerEnum types

/-- The registry with a table at its end and the table's enumerations, unchecked. -/
def append (r : Registry) (t : Table) : Registry :=
  { r with tables := r.tables ++ [t], customTypes := registerEnums r.customTypes t.columnEnums }

/-- The registry with a table, if the table is accepted.  Repeats in its primary key are removed. -/
def accept (r : Registry) (t : Table) : Except RegistrationError Registry :=
  if r.contains t.name then .error (.duplicateTable t.name)
  else
    let t := t.withDistinctKey
    match Validation.tableIssues r.tables t with
    | [] => .ok (r.append t)
    | i :: is => .error (.invalid (i :: is))

/-- The registry with tables up to the first that is refused. -/
def acceptAll (r : Registry) : List Table → Registry × Except RegistrationError Unit
  | [] => (r, .ok ())
  | t :: ts =>
    match r.accept t with
    | .ok r => r.acceptAll ts
    | .error e => (r, .error e)

/-- The issues of the whole schema. -/
def issues (r : Registry) : List Issue :=
  Validation.schemaIssues r.tables

end Registry

end TableSchema
