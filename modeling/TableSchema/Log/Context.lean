import TableSchema.Datum

/-!
# Contexts of log records

While a block of work runs, every record carries the table and the operation that are being worked
on. Blocks nest: a block inherits what it does not set itself, and further fields are merged.
-/

namespace TableSchema.Log

/-- The fields that a block of work attaches to its records. -/
structure Context where
  table : Option String := none
  operation : Option String := none
  component : Option String := none
  extra : List (Datum × Datum) := []

instance : Inhabited Context := ⟨{}⟩

namespace Context

/-- The context of a block with its own fields inside an outer one. -/
def nest (outer own : Context) : Context where
  table := own.table <|> outer.table
  operation := own.operation <|> outer.operation
  component := own.component <|> outer.component
  extra := Datum.putAll outer.extra own.extra

/-- An entry for a field that is set. -/
def entry (name : String) (value : Option String) : List (Datum × Datum) :=
  (value.map fun v => (Datum.text name, Datum.text v)).toList

/-- The fields that are set, then the further fields, which may override them. -/
def entries (c : Context) : List (Datum × Datum) :=
  Datum.putAll
    (entry "table" c.table ++ entry "operation" c.operation ++ entry "component" c.component)
    c.extra

end Context

/-- The contexts of the blocks that are running, the innermost first. -/
abbrev Frames := List Context

namespace Frames

/-- The context of the innermost block, an empty one outside of all blocks. -/
def current (fs : Frames) : Context :=
  fs.head?.getD {}

/-- The frames inside a further block. -/
def enter (own : Context) (fs : Frames) : Frames :=
  (current fs).nest own :: fs

/-- The frames after the innermost block is left. -/
def leave (fs : Frames) : Frames :=
  fs.tail

@[simp] theorem leave_enter (own : Context) (fs : Frames) : leave (enter own fs) = fs := rfl

end Frames

end TableSchema.Log
