import TableSchema.Grouping
import TableSchema.Text.Naming
import TableSchema.Vocabulary

/-!
# Issues

An issue is one problem of one table, with a code and a message. Issues are reported grouped by
their tables.
-/

namespace TableSchema

/-- The kinds of problems of a table. -/
inductive IssueCode where
  | duplicateTable
  | duplicateColumn
  | missingPrimaryKey
  | unknownPrimaryKeyColumn
  | unknownForeignKeyColumn
  | duplicateForeignKey
  | danglingForeignKey
  | foreignKeyTypeMismatch
  | enumMemberCollision
  | typeNameCollision
deriving DecidableEq, Repr

instance : Vocabulary IssueCode where
  members := [.duplicateTable, .duplicateColumn, .missingPrimaryKey, .unknownPrimaryKeyColumn,
    .unknownForeignKeyColumn, .duplicateForeignKey, .danglingForeignKey,
    .foreignKeyTypeMismatch, .enumMemberCollision, .typeNameCollision]
  word
    | .duplicateTable => "duplicate_table"
    | .duplicateColumn => "duplicate_column"
    | .missingPrimaryKey => "missing_primary_key"
    | .unknownPrimaryKeyColumn => "unknown_primary_key_column"
    | .unknownForeignKeyColumn => "unknown_foreign_key_column"
    | .duplicateForeignKey => "duplicate_foreign_key"
    | .danglingForeignKey => "dangling_foreign_key"
    | .foreignKeyTypeMismatch => "foreign_key_type_mismatch"
    | .enumMemberCollision => "enum_member_collision"
    | .typeNameCollision => "type_name_collision"

/-- A problem of a table. -/
structure Issue where
  table : String
  code : IssueCode
  message : String
deriving DecidableEq, Repr

namespace Issue

/-- The messages of each table, collected issue by issue. -/
def messages (issues : List Issue) : List (String × List String) :=
  issues.foldl (fun groups i => addTo i.table i.message groups) []

/-- The tables with issues. -/
def tables (issues : List Issue) : List String :=
  (messages issues).map (·.1)

/-- The codes of the issues of a table. -/
def codesFor (issues : List Issue) (table : String) : List IssueCode :=
  (issues.filter fun i => i.table == table).map (·.code)

/-- The report on one table. -/
def tableReport (group : String × List String) : List String :=
  ("  " ++ Text.counted group.2.length "error" ++ " found for table \"" ++ group.1 ++ "\":") ::
    group.2.map ("    " ++ ·)

/-- The report that names every table and every problem. -/
def report (issues : List Issue) : String :=
  "\n".intercalate
    (("Schema validation failed for " ++ Text.counted (messages issues).length "table" ++ ":") ::
      (messages issues).flatMap tableReport)

/-- The line that is logged about one table. -/
def logLine (group : String × List String) : String :=
  Text.counted group.2.length "error" ++ " found for table \"" ++ group.1 ++ "\": " ++
    "; ".intercalate group.2

end Issue

end TableSchema
