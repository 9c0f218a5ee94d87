import TableSchema.Reading.ValueType

/-!
# Reading columns

A column is read from its fields, and so is its default. Objects that were built before are taken
as they are.
-/

namespace TableSchema.Reading

/-- A default of the kind with the constant; an expression has to be a text. -/
def defaultOf : DefaultKind → Constant → Reading ColumnDefault
  | .value, c => .ok (.literal c)
  | .sql, .text s => .ok (.expression s)
  | .sql, _ => fault .badValue

/-- A default from its fields. -/
def columnDefault (entries : List (Datum × Datum)) : Reading ColumnDefault :=
  (Prod.mk <$> optional "kind" entries .value (word .notMember) <*>
    required "value" entries constant).andThen fun p => defaultOf p.1 p.2

/-- The default of a column, which may be null. -/
def defaultField : Datum → Reading (Option ColumnDefault)
  | .atom .null => .ok none
  | .built (.default d) => .ok (some d)
  | .map entries => some <$> columnDefault entries
  | _ => fault .notObject

/-- A column from its fields. -/
def columnOfFields (entries : List (Datum × Datum)) : Reading Column :=
  (fun name type nullable default => ⟨.text name.1, type, nullable, default⟩) <$>
    required "name" entries name <*> required "type" entries valueType <*>
    optional "nullable" entries false flag <*> optional "default" entries none defaultField

/-- A column: one that was built before, or one from its fields. -/
def column : Datum → Reading Column
  | .built (.column c) => .ok c
  | .map entries => columnOfFields entries
  | _ => fault .notObject

end TableSchema.Reading

namespace TableSchema

/-- The default of this kind and value. -/
def ColumnDefault.declare (kind : DefaultKind) (value : Datum) :
    Except ConstructionFault ColumnDefault :=
  (Reading.columnDefault
    [(Datum.text "kind", Datum.text (Vocabulary.word kind)),
      (Datum.text "value", value)]).construct "ColumnDefault"

end TableSchema
