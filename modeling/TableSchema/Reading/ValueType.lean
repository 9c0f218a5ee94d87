import TableSchema.Reading.Scalar

/-!
# Reading value types

A value type is read from its fields by the word of its kind. The values of an enumeration are what
a walk through a datum meets, without repeats; a single text is one value.
-/

namespace TableSchema.Reading

variable {α : Type}

/-- The message about a datum that has no items to walk through. -/
def notIterable (d : Datum) : String :=
  "'" ++ d.typeWord ++ "' object is not iterable"

/-- The message about a datum that cannot be a key. -/
def unhashable (word : String) : String :=
  "unhashable type: '" ++ word ++ "'"

/-- The items of a datum, all of which can be keys, without repeats. -/
def distinctItems (d : Datum) : Except String (List Datum) :=
  match d.items? with
  | none => .error (notIterable d)
  | some items =>
    match Datum.unhashableIn? items with
    | some w => .error (unhashable w)
    | none => .ok (Datum.distinct items)

/-- The values of an enumeration from data: at least one text. -/
def enumTexts (items : List Datum) : Reading { vs : List String // vs ≠ [] } :=
  map (fun vs => ⟨vs.1, fun h => by simpa [h] using vs.2⟩)
    (atLeast 1 (items.mapIdx fun n item => within (.index n) (text item)))

/-- The values of an enumeration; a single text is one value. -/
def enumValues (d : Datum) : Reading { vs : List String // vs ≠ [] } :=
  match distinctItems (match d with | .atom (.text s) => .list [Datum.text s] | d => d) with
  | .ok items => enumTexts items
  | .error m => .broken m

/-- The kind of a type of a class, where only some kinds are allowed. -/
def kindOf [Vocabulary α] (d : Datum) : Reading α :=
  word .notLiteral d

/-- A scalar type. -/
def scalarType (entries : List (Datum × Datum)) : Reading ScalarKind :=
  required "kind" entries kindOf

/-- A character type. -/
def characterType (entries : List (Datum × Datum)) : Reading CharacterType :=
  (fun kind length => ⟨kind, length.1, length.2.1, length.2.2⟩) <$>
    required "kind" entries kindOf <*> required "length" entries characterLength

/-- The kind of an enumeration, which may be left out. -/
def enumKind (d : Datum) : Reading Unit :=
  if d.text? = some (Vocabulary.word ValueKind.userDefined) then .ok () else fault .notLiteral

/-- An enumeration. -/
def enumType (entries : List (Datum × Datum)) : Reading EnumType :=
  (fun _ name values => ⟨name.1, values.1, name.2, values.2⟩) <$>
    optional "kind" entries () enumKind <*> required "name" entries name <*>
    required "values" entries enumValues

/-- A value type from its fields, of which the kind has been found to be this one. -/
def typeOfKind (kind : ValueKind) (entries : List (Datum × Datum)) : Reading ValueType :=
  within (.field (Vocabulary.word kind)) <|
    match kind with
    | .scalar _ => ValueType.scalar <$> scalarType entries
    | .character _ => ValueType.character <$> characterType entries
    | .userDefined => ValueType.enumeration <$> enumType entries

/-- The value type of a column. -/
def valueType : Datum → Reading ValueType
  | .built (.type t) => .ok t
  | .built (.default _) => fault .unknownTag
  | .built _ => fault .noTag
  | .map entries =>
    match Datum.field? "kind" entries with
    | none => fault .noTag
    | some d =>
      match d.text?.bind Vocabulary.ofWord? with
      | some kind => typeOfKind kind entries
      | none => fault .unknownTag
  | _ => fault .noAttributes

end TableSchema.Reading

namespace TableSchema

/-- The enumeration with the name and the values that are met on a walk through a datum; a single
text is walked through by its characters. -/
def EnumType.declare (name values : Datum) : Except ConstructionFault EnumType :=
  match values.items? with
  | none => .error (.broken (Reading.notIterable values))
  | some items =>
    (Reading.enumType [(Datum.text "name", name), (Datum.text "values", .tuple items)]).construct
      "EnumType"

end TableSchema
