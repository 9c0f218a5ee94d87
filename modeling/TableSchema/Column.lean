import TableSchema.Atom
import TableSchema.ValueType

/-!
# Columns

A column has a name, a value type, a flag that allows null, and perhaps a default.  A default is
either a constant, which is written as one, or an expression of SQL, which is written verbatim.

The name is an atom: names are checked where a column is read from its fields, but a finished column
that is placed under a key takes over the key as it is.
-/

namespace TableSchema

open TableSchema.Number

/-- A constant that a column may have as its default. -/
inductive Constant where
  | bool (b : Bool)
  | int (n : Int)
  | float (x : Binary64)
  | text (s : String)
deriving DecidableEq, Repr

/-- The constant as an atom. -/
def Constant.toAtom : Constant → Atom
  | .bool b => .bool b
  | .int n => .int n
  | .float x => .float x
  | .text s => .text s

/-- The default of a column. -/
inductive ColumnDefault where
  | literal (value : Constant)
  | expression (sql : String)
deriving DecidableEq, Repr

namespace ColumnDefault

/-- The kind of the default. -/
def kind : ColumnDefault → DefaultKind
  | .literal _ => .value
  | .expression _ => .sql

/-- The constant or the text of the expression. -/
def value : ColumnDefault → Constant
  | .literal c => c
  | .expression s => .text s

end ColumnDefault

/-- A column of a table. -/
structure Column where
  name : Atom
  type : ValueType
  nullable : Bool
  default : Option ColumnDefault
deriving DecidableEq, Repr

namespace Column

/-- The column has an enumeration as its type. -/
def isCustomType (c : Column) : Bool :=
  c.type.enum?.isSome

/-- The name as text, if it is one. -/
def nameText? (c : Column) : Option String :=
  match c.name with
  | .text s => some s
  | _ => none

theorem nameText?_eq_some_iff {c : Column} {n : String} :
    c.nameText? = some n ↔ c.name = .text n := by
  unfold nameText?
  split <;> simp_all

/-- The column has this text as its name. -/
def isNamed (name : String) (c : Column) : Bool :=
  c.name == .text name

end Column

end TableSchema
