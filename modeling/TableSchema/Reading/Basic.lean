import TableSchema.Datum

/-!
# Reading objects from data

A reading of a datum either gives an object, or lists everything that is wrong with the datum, or
breaks off.  Readings are combined side by side: the faults of both are kept, in the order of the
fields, and a reading that breaks off takes the whole with it.  Every fault carries the path to the
place where it was found.
-/

namespace TableSchema

/-- What is wrong at one place of a datum. -/
inductive Fault where
  | missing
  | notText
  | invalidUtf8
  | tooShortText
  | tooLongText
  | patternMismatch
  | notInteger
  | unreadableInteger
  | integerTooLarge
  | fractional
  | notFinite
  | tooSmall
  | tooLarge
  | notBool
  | unreadableBool
  | notFloat
  | unreadableFloat
  | notMember
  | notLiteral
  | notObject
  | noAttributes
  | noTag
  | unknownTag
  | notSequence
  | tooFewItems
  | badValue
deriving DecidableEq, Repr

/-- The word that stands for a fault in reports. -/
def Fault.word : Fault → String
  | .missing => "missing"
  | .notText => "string_type"
  | .invalidUtf8 => "string_unicode"
  | .tooShortText => "string_too_short"
  | .tooLongText => "string_too_long"
  | .patternMismatch => "string_pattern_mismatch"
  | .notInteger => "int_type"
  | .unreadableInteger => "int_parsing"
  | .integerTooLarge => "int_parsing_size"
  | .fractional => "int_from_float"
  | .notFinite => "finite_number"
  | .tooSmall => "greater_than_equal"
  | .tooLarge => "less_than_equal"
  | .notBool => "bool_type"
  | .unreadableBool => "bool_parsing"
  | .notFloat => "float_type"
  | .unreadableFloat => "float_parsing"
  | .notMember => "enum"
  | .notLiteral => "literal_error"
  | .notObject => "model_type"
  | .noAttributes => "model_attributes_type"
  | .noTag => "union_tag_not_found"
  | .unknownTag => "union_tag_invalid"
  | .notSequence => "tuple_type"
  | .tooFewItems => "too_short"
  | .badValue => "value_error"

/-- A step of a path into a datum. -/
inductive Step where
  | field (name : String)
  | index (n : Nat)
deriving DecidableEq, Repr

/-- A fault with the path to its place. -/
structure Located where
  path : List Step
  fault : Fault
deriving DecidableEq, Repr

/-- The outcome of reading a datum. -/
inductive Reading (α : Type) where
  | ok (a : α)
  | faults (fs : List Located)
  | broken (message : String)
deriving Repr

namespace Reading

variable {α β : Type}

/-- The outcome with the object changed. -/
def map (f : α → β) : Reading α → Reading β
  | .ok a => .ok (f a)
  | .faults fs => .faults fs
  | .broken m => .broken m

/-- Two readings side by side. -/
def seq (f : Reading (α → β)) (x : Unit → Reading α) : Reading β :=
  match f, x () with
  | .broken m, _ => .broken m
  | _, .broken m => .broken m
  | .faults fs, .faults gs => .faults (fs ++ gs)
  | .faults fs, .ok _ => .faults fs
  | .ok _, .faults gs => .faults gs
  | .ok g, .ok a => .ok (g a)

instance : Applicative Reading where
  pure := .ok
  map := map
  seq := seq

/-- The reading that found one fault where it stands. -/
def fault (f : Fault) : Reading α :=
  .faults [⟨[], f⟩]

/-- The object of a reading, if there is one. -/
def toOption : Reading α → Option α
  | .ok a => some a
  | _ => none

/-- A further reading of what was read. -/
def andThen (x : Reading α) (f : α → Reading β) : Reading β :=
  match x with
  | .ok a => f a
  | .faults fs => .faults fs
  | .broken m => .broken m

/-- The reading of a part that is reached by this step. -/
def within (s : Step) : Reading α → Reading α
  | .ok a => .ok a
  | .faults fs => .faults (fs.map fun l => ⟨s :: l.path, l.fault⟩)
  | .broken m => .broken m

/-- The readings of a list of parts side by side. -/
def all : List (Reading α) → Reading (List α)
  | [] => .ok []
  | r :: rs => List.cons <$> r <*> all rs

/-- At least `least` objects; a list with fewer good ones has one fault more. -/
def atLeast (least : Nat) (rs : List (Reading α)) :
    Reading { as : List α // least ≤ as.length } :=
  let few : List Located :=
    if (rs.filterMap toOption).length < least then [⟨[], .tooFewItems⟩] else []
  match all rs with
  | .broken m => .broken m
  | .faults fs => .faults (fs ++ few)
  | .ok as => if h : least ≤ as.length then .ok ⟨as, h⟩ else .faults few

/-- The reading of a field that has to be there. -/
def required (name : String) (entries : List (Datum × Datum)) (read : Datum → Reading α) :
    Reading α :=
  within (.field name) <|
    match Datum.field? name entries with
    | some d => read d
    | none => fault .missing

/-- The reading of a field that has a default. -/
def optional (name : String) (entries : List (Datum × Datum)) (default : α)
    (read : Datum → Reading α) : Reading α :=
  match Datum.field? name entries with
  | some d => within (.field name) (read d)
  | none => .ok default

/-- The items of a sequence: of a list, a tuple, a set or the fields of an object, but not of a
text, bytes or a mapping. -/
def sequence? : Datum → Option (List Datum)
  | .list items | .tuple items | .set items => some items
  | .built b => (Datum.built b).items?
  | .atom _ | .map _ => none

/-- The reading of a sequence of at least `least` items. -/
def sequence (least : Nat) (read : Datum → Reading α) (d : Datum) :
    Reading { as : List α // least ≤ as.length } :=
  match sequence? d with
  | some items => atLeast least (items.mapIdx fun n item => within (.index n) (read item))
  | none => fault .notSequence

@[simp] theorem pure_eq (a : α) : (pure a : Reading α) = .ok a := rfl

@[simp] theorem ok_seq (f : α → β) (x : Reading α) : (Reading.ok f <*> x) = x.map f := by
  cases x <;> rfl

@[simp] theorem map_ok (f : α → β) (a : α) : (f <$> Reading.ok a) = .ok (f a) := rfl

end Reading

/-- Why an object could not be constructed. -/
inductive ConstructionFault where
  /-- The object of the named class has these faults. -/
  | rejected (className : String) (details : List Located)
  /-- The construction broke off. -/
  | broken (message : String)
deriving DecidableEq, Repr

/-- The construction of an object from a reading of its fields. -/
def Reading.construct {α : Type} (className : String) : Reading α → Except ConstructionFault α
  | .ok a => .ok a
  | .faults fs => .error (.rejected className fs)
  | .broken m => .error (.broken m)

/-- The class of an object with its faults counted, the first line of a report. -/
def rejectionHeadline (className : String) (details : List Located) : String :=
  let n := details.length
  toString n ++ " validation error" ++ (if n == 1 then "" else "s") ++ " for " ++ className

end TableSchema
