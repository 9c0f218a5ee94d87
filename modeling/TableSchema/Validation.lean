import TableSchema.Issue
import TableSchema.Table

/-!
# Validation

A table is checked against a list of known tables: its column names, its primary key, its foreign
keys, and the names that it declares in TypeScript.  Known tables of its own name are passed over.
A whole schema is valid if no table repeats an earlier name and every table is valid among all.
-/

namespace TableSchema

/-- What a name of a TypeScript declaration belongs to. -/
inductive Owner where
  | table (name : String)
  | enumeration (name : String)
deriving DecidableEq, Repr

/-- The owner as messages describe it. -/
def Owner.describe : Owner → String
  | .table n => "type of table \"" ++ n ++ "\""
  | .enumeration n => "enum \"" ++ n ++ "\""

/-- A problem of the table that is checked. -/
inductive Problem where
  | repeatedTable
  | repeatedColumn (name : Atom)
  | noPrimaryKey
  | unknownKeyColumn (name : String)
  | unknownLocalColumn (key : ForeignKey) (name : String)
  | repeatedLocalColumn (name : String)
  | noForeignTable (key : ForeignKey)
  | noForeignColumn (key : ForeignKey) (name : String)
  | typeMismatch (key : ForeignKey) (pair : ColumnReference) (own foreign : ValueType)
  | sharedMember (enumName : String) (member : String) (values : List String)
  | sharedName (name : String) (owner existing : Owner)
deriving DecidableEq, Repr

/-- The name of a column in a message. -/
def nameText (name : Atom) : String :=
  match name.plain with
  | .ok s => s
  | .error _ => ""

namespace Problem

/-- The code of a problem. -/
def code : Problem → IssueCode
  | .repeatedTable => .duplicateTable
  | .repeatedColumn _ => .duplicateColumn
  | .noPrimaryKey => .missingPrimaryKey
  | .unknownKeyColumn _ => .unknownPrimaryKeyColumn
  | .unknownLocalColumn _ _ => .unknownForeignKeyColumn
  | .repeatedLocalColumn _ => .duplicateForeignKey
  | .noForeignTable _ | .noForeignColumn _ _ => .danglingForeignKey
  | .typeMismatch _ _ _ _ => .foreignKeyTypeMismatch
  | .sharedMember _ _ _ => .enumMemberCollision
  | .sharedName _ _ _ => .typeNameCollision

/-- The message about a problem of the named table. -/
def message (table : String) : Problem → String
  | .repeatedTable => "Table \"" ++ table ++ "\" already exists"
  | .repeatedColumn name =>
    "Duplicate column \"" ++ nameText name ++ "\" in table \"" ++ table ++ "\""
  | .noPrimaryKey => "Table \"" ++ table ++ "\" must have a primary key"
  | .unknownKeyColumn name =>
    "Table \"" ++ table ++ "\" is missing column \"" ++ name ++ "\" for primary key constraint"
  | .unknownLocalColumn key name =>
    "Local column \"" ++ name ++ "\" not found for foreign key " ++ key.describe table
  | .repeatedLocalColumn name =>
    "Duplicate foreign key on column \"" ++ name ++ "\" in table \"" ++ table ++ "\""
  | .noForeignTable key =>
    "No foreign table \"" ++ key.table ++ "\" exists for foreign key " ++ key.describe table
  | .noForeignColumn key name =>
    "Foreign table \"" ++ key.table ++ "\" has no column \"" ++ name ++
      "\" for foreign key " ++ key.describe table
  | .typeMismatch key pair own foreign =>
    "Column type mismatch on foreign key \"" ++ pair.localName ++ "\" in table \"" ++ table ++
      "\": " ++ own.sqlName ++ " does not match " ++ key.table ++ "." ++ pair.foreignName ++
      " " ++ foreign.sqlName
  | .sharedMember enumName member values =>
    "Enum \"" ++ enumName ++ "\" values " ++
      ", ".intercalate (values.map fun v => "\"" ++ v ++ "\"") ++
      " share TypeScript member \"" ++ member ++ "\""
  | .sharedName name owner existing =>
    "TypeScript name \"" ++ name ++ "\" of " ++ owner.describe ++ " collides with " ++
      existing.describe

/-- The issue that reports a problem of the named table. -/
def issue (table : String) (p : Problem) : Issue :=
  ⟨table, p.code, p.message table⟩

end Problem

namespace Validation

/-- The first table with this name. -/
def findTable? (tables : List Table) (name : String) : Option Table :=
  tables.find? fun t => t.name == name

/-- The tables without those of a name. -/
def others (tables : List Table) (exclude : String) : List Table :=
  tables.filter fun t => t.name != exclude

/-- The first table with this name; tables of the excluded name are passed over. -/
def findOther? (tables : List Table) (exclude name : String) : Option Table :=
  tables.find? fun t => t.name == name && t.name != exclude

theorem findOther?_eq (tables : List Table) (exclude name : String) :
    findOther? tables exclude name = findTable? (others tables exclude) name := by
  have htest (t : Table) : (t.name == name && t.name != exclude) =
      decide ((t.name != exclude) = true ∧ (t.name == name) = true) := by
    rw [Bool.decide_and, Bool.decide_eq_true, Bool.decide_eq_true, Bool.and_comm]
  rw [findOther?, findTable?, others, List.find?_filter, funext htest]

/-- The columns whose names occur earlier. -/
def columnProblems (earlier : List Atom) : List Atom → List Problem
  | [] => []
  | a :: as =>
    (if earlier.any (·.same a) then [Problem.repeatedColumn a] else []) ++
      columnProblems (earlier ++ [a]) as

/-- The problems of the primary key. -/
def keyProblems (t : Table) : List Problem :=
  if t.primaryKeys.isEmpty then [.noPrimaryKey]
  else (t.primaryKeys.filter fun k => !t.hasColumn k).map .unknownKeyColumn

/-- The pairs of columns of all foreign keys, each with its key. -/
def pairs (t : Table) : List (ForeignKey × ColumnReference) :=
  t.foreignKeys.flatMap fun k => k.columns.map fun r => (k, r)

/-- The problem of the target of a pair whose own column is known. -/
def targetProblem? (known : List Table) (t : Table) (k : ForeignKey) (r : ColumnReference)
    (own : Column) : Option Problem :=
  match findOther? known t.name k.table with
  | none => some (.noForeignTable k)
  | some target =>
    match target.column? r.foreignName with
    | none => some (.noForeignColumn k r.foreignName)
    | some foreign =>
      if foreign.type.Same own.type then none
      else some (.typeMismatch k r own.type foreign.type)

/-- The problem of a pair of columns after pairs with the given local columns. -/
def pairProblem? (known : List Table) (t : Table) (earlier : List String)
    (p : ForeignKey × ColumnReference) : Option Problem :=
  match t.column? p.2.localName with
  | none => some (.unknownLocalColumn p.1 p.2.localName)
  | some own =>
    if earlier.contains p.2.localName then some (.repeatedLocalColumn p.2.localName)
    else targetProblem? known t p.1 p.2 own

/-- The problems of pairs of columns after pairs with the given local columns. -/
def pairProblems (known : List Table) (t : Table) (earlier : List String) :
    List (ForeignKey × ColumnReference) → List Problem
  | [] => []
  | p :: ps =>
    (pairProblem? known t earlier p).toList ++
      pairProblems known t (earlier ++ [p.2.localName]) ps

/-- The values of the table's enumerations that share members. -/
def memberProblems (t : Table) : List Problem :=
  t.enumTypes.flatMap fun e =>
    e.memberCollisions.map fun c => .sharedMember e.name c.1 c.2

/-- The names that a table declares in TypeScript, with their owners. -/
def declaredNames (t : Table) : List (String × Owner) :=
  (t.typeName, .table t.name) ::
    t.enumTypes.map fun e => (e.typescriptName, .enumeration e.name)

/-- The names that tables declare in TypeScript; tables of the excluded name are passed over. -/
def namesOfOthers (exclude : String) : List Table → List (String × Owner)
  | [] => []
  | t :: ts =>
    if t.name == exclude then namesOfOthers exclude ts
    else declaredNames t ++ namesOfOthers exclude ts

theorem namesOfOthers_eq (exclude : String) (tables : List Table) :
    namesOfOthers exclude tables = (others tables exclude).flatMap declaredNames := by
  induction tables with
  | nil => rfl
  | cons t ts ih =>
    by_cases h : t.name = exclude
    · rw [namesOfOthers, if_pos (beq_iff_eq.mpr h), ih, others, others,
        List.filter_cons_of_neg (by simpa using h)]
    · rw [namesOfOthers, if_neg (mt beq_iff_eq.mp h), ih, others, others,
        List.filter_cons_of_pos (by simpa using h), List.flatMap_cons]

/-- The problem of one name after the declared ones: the first of them has another owner. -/
def nameProblem? (declared : List (String × Owner)) (e : String × Owner) : Option Problem :=
  match lookupFirst e.1 declared with
  | some o => if o = e.2 then none else some (.sharedName e.1 e.2 o)
  | none => none

/-- The problems of names after the declared ones. -/
def nameProblems (declared : List (String × Owner)) : List (String × Owner) → List Problem
  | [] => []
  | e :: es => (nameProblem? declared e).toList ++ nameProblems (declared ++ [e]) es

/-- All problems of a table among the known tables. -/
def problems (known : List Table) (t : Table) : List Problem :=
  columnProblems [] t.columnNames ++ keyProblems t ++ pairProblems known t [] (pairs t) ++
    memberProblems t ++
    nameProblems (namesOfOthers t.name known) (declaredNames t)

/-- The issues of a table among the known tables. -/
def tableIssues (known : List Table) (t : Table) : List Issue :=
  (problems known t).map (·.issue t.name)

/-- The issues of tables in a schema, where `earlier` holds the names of the tables before. -/
def issuesFrom (schema : List Table) (earlier : List String) : List Table → List Issue
  | [] => []
  | t :: ts =>
    (if earlier.contains t.name then [Problem.repeatedTable.issue t.name] else []) ++
      tableIssues schema t ++ issuesFrom schema (earlier ++ [t.name]) ts

/-- The issues of a whole schema. -/
def schemaIssues (schema : List Table) : List Issue :=
  issuesFrom schema [] schema

end Validation

end TableSchema
