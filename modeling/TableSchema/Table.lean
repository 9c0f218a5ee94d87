import TableSchema.Column

/-!
# Tables

A table is plain data: a name, the name of its record type in TypeScript, columns, a primary key,
foreign keys that name their target tables, and check constraints.
-/

namespace TableSchema

/-- One pair of columns of a foreign key. -/
structure ColumnReference where
  localName : String
  foreignName : String
  localName_ne_empty : localName ≠ ""
  foreignName_ne_empty : foreignName ≠ ""
deriving DecidableEq, Repr

/-- A reference to another table by name. -/
structure ForeignKey where
  table : String
  columns : List ColumnReference
  onDelete : Option ReferentialAction
  onUpdate : Option ReferentialAction
  table_ne_empty : table ≠ ""
  columns_ne_nil : columns ≠ []
deriving DecidableEq, Repr

namespace ForeignKey

/-- The columns of the table that has the key. -/
def localColumns (k : ForeignKey) : List String :=
  k.columns.map (·.localName)

/-- The columns of the table that the key refers to. -/
def foreignColumns (k : ForeignKey) : List String :=
  k.columns.map (·.foreignName)

/-- What happens on deletion: nothing unless the key says otherwise. -/
def deleteAction (k : ForeignKey) : ReferentialAction :=
  k.onDelete.getD .noAction

/-- What happens on a change: nothing unless the key says otherwise. -/
def updateAction (k : ForeignKey) : ReferentialAction :=
  k.onUpdate.getD .noAction

/-- The key of the named table in one line. -/
def describe (k : ForeignKey) (tableName : String) : String :=
  tableName ++ "(" ++ ", ".intercalate k.localColumns ++ ") -> " ++
    k.table ++ "(" ++ ", ".intercalate k.foreignColumns ++ ")"

end ForeignKey

/-- A named condition on the rows, written verbatim. -/
@[ext]
structure CheckConstraint where
  name : String
  expression : String
  name_fits : FitsName name
  expression_ne_empty : expression ≠ ""
deriving Repr

instance : DecidableEq CheckConstraint := fun _ _ =>
  decidable_of_iff _ CheckConstraint.ext_iff.symm

/-- A character that may begin the name of a TypeScript type. -/
def isTypeNameStart (c : Char) : Bool :=
  c.isAlpha || c == '_' || c == '$'

/-- The text is a name of a TypeScript type: ASCII letters, digits, `_` and `$`, no digit first. -/
def isTypeName (s : String) : Bool :=
  match s.toList with
  | [] => false
  | c :: cs => isTypeNameStart c && cs.all fun d => isTypeNameStart d || d.isDigit

/-- A table. -/
@[ext]
structure Table where
  name : String
  typeName : String
  columns : List Column
  primaryKeys : List String
  foreignKeys : List ForeignKey
  constraints : List CheckConstraint
  name_fits : FitsName name
  typeName_ok : isTypeName typeName = true
deriving Repr

instance : DecidableEq Table := fun _ _ =>
  decidable_of_iff _ Table.ext_iff.symm

namespace Table

/-- The names of the columns. -/
def columnNames (t : Table) : List Atom :=
  t.columns.map (·.name)

/-- The first column with this name. -/
def column? (t : Table) (name : String) : Option Column :=
  t.columns.find? (·.isNamed name)

/-- The table has a column with this name. -/
def hasColumn (t : Table) (name : String) : Bool :=
  (t.column? name).isSome

/-- The enumerations of the columns in their order. -/
def columnEnums (t : Table) : List EnumType :=
  t.columns.filterMap (·.type.enum?)

/-- The enumerations of the columns, of each name the first. -/
def enumTypes (t : Table) : List EnumType :=
  firstsBy (·.name) t.columnEnums

/-- The table with the repeats in its primary key removed. -/
def withDistinctKey (t : Table) : Table :=
  { t with primaryKeys := firsts t.primaryKeys }

end Table

end TableSchema
