import TableSchema.Datum

/-!
# Texts of data

The plain text of a datum stands alone in a message; its shown text marks texts by quotes and stands
inside collections.  An object shows its class and its fields.  An integer of too many digits has
neither text.
-/

namespace TableSchema

open TableSchema.Number

/-- A text, or the fault of an integer that is too long. -/
abbrev Rendered := Except NumeralFault String

/-- A tuple with its comma after a single item. -/
def tupleText : List String → String
  | [s] => "(" ++ s ++ ",)"
  | ss => "(" ++ ", ".intercalate ss ++ ")"

/-- A tuple of texts. -/
def textTuple (ss : List String) : String :=
  tupleText (ss.map Text.quoted)

/-- A list of texts. -/
def textList (ss : List String) : String :=
  "[" ++ ", ".intercalate (ss.map Text.quoted) ++ "]"

/-- Fields with their shown values. -/
abbrev ShownFields := List (String × String)

/-- The fields with a separator between them. -/
def joinFields (separator : String) (fields : ShownFields) : String :=
  separator.intercalate (fields.map fun f => f.1 ++ "=" ++ f.2)

/-- An object of a class with its fields. -/
def objectText (className : String) (fields : ShownFields) : String :=
  className ++ "(" ++ joinFields ", " fields ++ ")"

/-- The fields of a value type. -/
def ValueType.shownFields (t : ValueType) : ShownFields :=
  ("kind", t.kind.shown) ::
    match t with
    | .scalar _ => []
    | .character c => [("length", toString c.length)]
    | .enumeration e => [("name", Text.quoted e.name), ("values", textTuple e.values)]

/-- A value type inside a collection. -/
def ValueType.shown (t : ValueType) : String :=
  objectText (Built.type t).className t.shownFields

/-- The fields of a default. -/
def ColumnDefault.shownFields (d : ColumnDefault) : Except NumeralFault ShownFields := do
  return [("kind", Vocabulary.shownIn "DefaultKind" d.kind), ("value", ← d.value.toAtom.shown)]

/-- The fields of a column. -/
def Column.shownFields (c : Column) : Except NumeralFault ShownFields := do
  let default ← match c.default with
    | none => pure "None"
    | some d => objectText "ColumnDefault" <$> d.shownFields
  return [("name", ← c.name.shown), ("type", c.type.shown),
    ("nullable", if c.nullable then "True" else "False"), ("default", default)]

/-- The fields of a pair of columns. -/
def ColumnReference.shownFields (r : ColumnReference) : ShownFields :=
  [("local", Text.quoted r.localName), ("foreign", Text.quoted r.foreignName)]

/-- An action inside a collection. -/
def shownAction (a : Option ReferentialAction) : String :=
  match a with
  | some a => Vocabulary.shownIn "ReferentialAction" a
  | none => "None"

/-- The fields of a foreign key. -/
def ForeignKey.shownFields (k : ForeignKey) : ShownFields :=
  [("table", Text.quoted k.table),
    ("columns", tupleText (k.columns.map fun r => objectText "ColumnReference" r.shownFields)),
    ("on_delete", shownAction k.onDelete), ("on_update", shownAction k.onUpdate)]

/-- The fields of a check constraint. -/
def CheckConstraint.shownFields (c : CheckConstraint) : ShownFields :=
  [("name", Text.quoted c.name), ("expression", Text.quoted c.expression)]

/-- The fields of a table. -/
def Table.shownFields (t : Table) : Except NumeralFault ShownFields := do
  let columns ← t.columns.mapM fun c => objectText "Column" <$> c.shownFields
  return [("name", Text.quoted t.name), ("type_name", Text.quoted t.typeName),
    ("columns", tupleText columns), ("primary_keys", textTuple t.primaryKeys),
    ("foreign_keys",
      tupleText (t.foreignKeys.map fun k => objectText "ForeignKey" k.shownFields)),
    ("constraints",
      tupleText (t.constraints.map fun c => objectText "CheckConstraint" c.shownFields))]

namespace Built

/-- The fields of an object. -/
def shownFields : Built → Except NumeralFault ShownFields
  | .type t => .ok t.shownFields
  | .default d => d.shownFields
  | .column c => c.shownFields
  | .table t => t.shownFields
  | .foreignKey k => .ok k.shownFields
  | .reference r => .ok r.shownFields
  | .check c => .ok c.shownFields

/-- The object inside a collection. -/
def shown (b : Built) : Rendered :=
  objectText b.className <$> b.shownFields

/-- The object alone: the SQL name of a type, the fields of other objects. -/
def plain : Built → Rendered
  | .type t => .ok t.sqlName
  | b => joinFields " " <$> b.shownFields

end Built

namespace Datum

mutual

/-- The datum inside a collection. -/
def shown : Datum → Rendered
  | .atom a => a.shown
  | .list items => do return "[" ++ ", ".intercalate (← shownAll items) ++ "]"
  | .tuple items => tupleText <$> shownAll items
  | .set [] => .ok "set()"
  | .set (x :: items) => do return "\x7b" ++ ", ".intercalate (← shownAll (x :: items)) ++ "\x7d"
  | .map entries => do return "\x7b" ++ ", ".intercalate (← shownEntries entries) ++ "\x7d"
  | .built b => b.shown

/-- The texts of data inside a collection. -/
def shownAll : List Datum → Except NumeralFault (List String)
  | [] => .ok []
  | x :: xs => do return (← shown x) :: (← shownAll xs)

/-- The texts of entries. -/
def shownEntries : List (Datum × Datum) → Except NumeralFault (List String)
  | [] => .ok []
  | (k, v) :: es => do return ((← shown k) ++ ": " ++ (← shown v)) :: (← shownEntries es)

end

/-- The datum alone. -/
def plain : Datum → Rendered
  | .atom a => a.plain
  | .built b => b.plain
  | d => d.shown

@[simp] theorem plain_text (s : String) : (text s).plain = .ok s := rfl

end Datum

end TableSchema
