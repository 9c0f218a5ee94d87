import TableSchema.Reading.Column

/-!
# Reading tables

A table is read from its fields. Its columns are a list, or a mapping from names to columns that
are given by a type, by fields or by a finished column; its primary key is a list or a single name;
its constraints are a list or a mapping from names to expressions.
-/

namespace TableSchema.Reading

open TableSchema.Text

/-- The text of an action as it is looked up: in upper case, with single spaces for underscores and
other spacing. -/
def actionText (s : String) : String :=
  String.ofList (collapse (upperCase (s.toList.map fun c => if c = '_' then ' ' else c)))

/-- A referential action, which may be null. -/
def action : Datum → Reading (Option ReferentialAction)
  | .atom .null => .ok none
  | .atom (.text s) => some <$> word .notMember (Datum.text (actionText s))
  | _ => fault .notMember

/-- A pair of columns. -/
def reference : Datum → Reading ColumnReference
  | .built (.reference r) => .ok r
  | .map entries =>
    (fun l f => ⟨l.1, f.1, l.2, f.2⟩) <$>
      required "local" entries nonempty <*> required "foreign" entries nonempty
  | _ => fault .notObject

/-- The pairs of columns of a foreign key: at least one. -/
def references (d : Datum) : Reading { rs : List ColumnReference // rs ≠ [] } :=
  map (fun rs => ⟨rs.1, fun h => by simpa [h] using rs.2⟩) (sequence 1 reference d)

/-- A foreign key from its fields. -/
def foreignKeyOfFields (entries : List (Datum × Datum)) : Reading ForeignKey :=
  (fun table columns onDelete onUpdate =>
      ⟨table.1, columns.1, onDelete, onUpdate, table.2, columns.2⟩) <$>
    required "table" entries nonempty <*> required "columns" entries references <*>
    optional "on_delete" entries none action <*> optional "on_update" entries none action

/-- A foreign key. -/
def foreignKey : Datum → Reading ForeignKey
  | .built (.foreignKey k) => .ok k
  | .map entries => foreignKeyOfFields entries
  | _ => fault .notObject

/-- A check constraint. -/
def check : Datum → Reading CheckConstraint
  | .built (.check c) => .ok c
  | .map entries =>
    (fun ⟨name, fits⟩ ⟨expression, given⟩ => ⟨name, expression, fits, given⟩) <$>
      required "name" entries name <*> required "expression" entries nonempty
  | _ => fault .notObject

/-- The name of a record type. -/
def typeName (d : Datum) : Reading { s : String // isTypeName s = true } :=
  (text d).andThen fun s =>
    if h : isTypeName s = true then .ok ⟨s, h⟩ else fault .patternMismatch

/-- The item that a named entry of a mapping of columns stands for. -/
def namedColumn (key spec : Datum) : Datum :=
  match spec with
  | .built (.column c) =>
    match key with
    | .atom a => .built (.column { c with name := a })
    | _ => .map []
  | .built (.type t) =>
    .map [(Datum.text "name", key), (Datum.text "type", .built (.type t))]
  | .map fields => .map (Datum.putEntry (Datum.text "name") key fields)
  | d => d

/-- A mapping of columns as the list of its columns; other data stay as they are. -/
def columnsForm : Datum → Datum
  | .map entries => .list (entries.map fun e => namedColumn e.1 e.2)
  | d => d

/-- A single name as a list of one; other data stay as they are. -/
def keysForm : Datum → Datum
  | .atom (.text s) => .list [Datum.text s]
  | d => d

/-- A mapping of constraints as the list of its constraints; other data stay as they are. -/
def constraintsForm : Datum → Datum
  | .map entries =>
    .list (entries.map fun e =>
      .map [(Datum.text "name", e.1), (Datum.text "expression", e.2)])
  | d => d

/-- Any number of items. -/
def items {α : Type} (read : Datum → Reading α) (d : Datum) : Reading (List α) :=
  map (·.1) (sequence 0 read d)

/-- A table from its fields. -/
def tableOfFields (entries : List (Datum × Datum)) : Reading Table :=
  (fun ⟨name, fits⟩ ⟨typeName, proper⟩ columns keys foreignKeys constraints =>
      ⟨name, typeName, columns, keys, foreignKeys, constraints, fits, proper⟩) <$>
    required "name" entries name <*> required "type_name" entries typeName <*>
    optional "columns" entries [] (fun d => items column (columnsForm d)) <*>
    optional "primary_keys" entries [] (fun d => items text (keysForm d)) <*>
    optional "foreign_keys" entries [] (items foreignKey) <*>
    optional "constraints" entries [] (fun d => items check (constraintsForm d))

/-- A table: one that was built before, or one from its fields. -/
def table : Datum → Reading Table
  | .built (.table t) => .ok t
  | .map entries => tableOfFields entries
  | _ => fault .notObject

end TableSchema.Reading

namespace TableSchema

/-- The table with these fields, all of which have to be named by texts. -/
def Table.ofFields (entries : List (Datum × Datum)) : Except ConstructionFault Table :=
  if entries.all fun e => e.1.text?.isSome then
    (Reading.tableOfFields entries).construct "Table"
  else .error (.broken "keywords must be strings")

end TableSchema
