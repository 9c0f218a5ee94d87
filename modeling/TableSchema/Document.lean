import TableSchema.Datum.Text
import TableSchema.Reading.Table
import TableSchema.ValueType.Lookup

/-!
# Schema documents

A schema document is a mapping with extensions, enumerations and tables.  Reading it builds each
enumeration once, resolves the type of every column by the name of an enumeration or of a catalogue
type, and gives the extensions and tables in their order.  The first thing that is wrong ends it.
-/

namespace TableSchema

/-- What is wrong with a schema document. -/
inductive DocumentFault where
  /-- The document is no mapping. -/
  | notMapping
  /-- The extensions are neither a name nor a list of names. -/
  | badExtensions
  /-- A part that should be a mapping is a datum of this kind. -/
  | noEntries (word : String)
  /-- A part whose entries are asked for is a datum of this kind. -/
  | notIterable (word : String)
  /-- An element of a list of entries is no sequence. -/
  | elementNoSequence (index : Nat)
  /-- An element of a list of entries has not two parts. -/
  | elementLength (index length : Nat)
  /-- A datum of this kind is no key. -/
  | unhashable (word : String)
  /-- A column has no type. -/
  | noType (column : String)
  /-- A column has two defaults. -/
  | twoDefaults (column : String)
  /-- A text names no type. -/
  | unknownType (spec : String)
  /-- A numeral is too long to be read. -/
  | longNumeral (digits : Nat)
  /-- An integer is too long to be written. -/
  | longInteger
  /-- An object could not be constructed. -/
  | construction (fault : ConstructionFault)
deriving DecidableEq, Repr

/-- The message about a fault of a document. -/
def DocumentFault.message : DocumentFault → String
  | .notMapping => "schema document must be a mapping"
  | .badExtensions => "extensions must be a name or a list of names"
  | .noEntries w => "'" ++ w ++ "' object has no attribute 'items'"
  | .notIterable w => "'" ++ w ++ "' object is not iterable"
  | .elementNoSequence i =>
    "cannot convert dictionary update sequence element #" ++ toString i ++ " to a sequence"
  | .elementLength i n =>
    "dictionary update sequence element #" ++ toString i ++ " has length " ++ toString n ++
      "; 2 is required"
  | .unhashable w => Reading.unhashable w
  | .noType c => "Column \"" ++ c ++ "\" needs a type"
  | .twoDefaults c => "Column \"" ++ c ++ "\" has both default and default_sql"
  | .unknownType s => unsupportedMessage (Text.quoted s)
  | .longNumeral n => Number.longNumeralMessage n
  | .longInteger => Number.longIntegerMessage
  | .construction (.rejected c details) => rejectionHeadline c details
  | .construction (.broken m) => m

/-- The extensions and the tables that a document declares. -/
structure Declarations where
  extensions : List String
  tables : List Table
deriving DecidableEq, Repr

namespace Document

/-- What a document gives, or its first fault. -/
abbrev Read := Except DocumentFault

/-- The entries of a document. -/
abbrev Entries := List (Datum × Datum)

/-- The value of a field, or nothing if it is missing or counts as false. -/
def section? (name : String) (entries : Entries) : Option Datum :=
  (Datum.field? name entries).filter Datum.truthy

/-- The entries of a section that has to be a mapping; a missing section has none. -/
def sectionEntries (name : String) (entries : Entries) : Read Entries :=
  match section? name entries with
  | none => .ok []
  | some (.map es) => .ok es
  | some d => .error (.noEntries d.typeWord)

/-- The entry that an element of a list stands for. -/
def pairOf (index : Nat) (d : Datum) : Read (Datum × Datum) :=
  match d.items? with
  | none => .error (.elementNoSequence index)
  | some [k, v] =>
    match k.unhashable? with
    | some w => .error (.unhashable w)
    | none => .ok (k, v)
  | some items => .error (.elementLength index items.length)

/-- The entries that a list of pairs stands for, with the first element at place `index`. -/
def pairsFrom (index : Nat) : List Datum → Read Entries
  | [] => .ok []
  | d :: ds => do
    let e ← pairOf index d
    return e :: (← pairsFrom (index + 1) ds)

/-- The entries of a datum: of a mapping, of an object's fields, or of a walk that meets pairs. -/
def entriesOf (d : Datum) : Read Entries :=
  match d with
  | .map es => .ok es
  | .built b => .ok (Datum.fieldEntries b)
  | d =>
    match d.items? with
    | none => .error (.notIterable d.typeWord)
    | some items => do return Datum.entriesOf (← pairsFrom 0 items)

/-- The names of extensions: a list of texts or a single text. -/
def extensions (entries : Entries) : Read (List String) :=
  match section? "extensions" entries with
  | none => .ok []
  | some (.atom (.text s)) => .ok [s]
  | some (.list items) =>
    if items.all fun d => d.text?.isSome then .ok (items.filterMap Datum.text?)
    else .error .badExtensions
  | some _ => .error .badExtensions

/-- A step that constructs an object. -/
def constructed {α : Type} (r : Except ConstructionFault α) : Read α :=
  r.mapError .construction

/-- The plain text of a datum. -/
def plain (d : Datum) : Read String :=
  d.plain.mapError fun _ => .longInteger

/-- The enumerations of a document under their names. -/
def enums : Entries → Read (List (Datum × EnumType))
  | [] => .ok []
  | (name, values) :: es => do
    let e ← constructed (EnumType.declare name values)
    return (name, e) :: (← enums es)

/-- The catalogue type that a text names. -/
def catalogueType (spec : String) : Read ValueType :=
  (lookupType spec).mapError fun
    | .unknown => .unknownType spec
    | .longNumeral n => .longNumeral n
    | .lengthTooSmall =>
      .construction (.rejected "CharacterType" [⟨[.field "length"], .tooSmall⟩])
    | .lengthTooLarge =>
      .construction (.rejected "CharacterType" [⟨[.field "length"], .tooLarge⟩])

/-- The type that a text names: an enumeration of the document before a catalogue type. -/
def typeNamed (enums : List (Datum × EnumType)) (spec : String) : Read ValueType :=
  match enums.find? fun e => e.1.text? == some spec with
  | some e => .ok (.enumeration e.2)
  | none => catalogueType spec

/-- The fields of a column with its default as an object. -/
def withDefault (label : Read String) (fields : Entries) : Read Entries :=
  match Datum.field? "default_sql" fields, Datum.field? "default" fields with
  | none, none => .ok fields
  | some _, some _ => do throw (.twoDefaults (← label))
  | some d, none => do
    let default ← constructed (ColumnDefault.declare .sql (Datum.text (← plain d)))
    return Datum.putEntry (Datum.text "default") (.built (.default default))
      (Datum.dropField "default_sql" fields)
  | none, some d => do
    let default ← constructed (ColumnDefault.declare .value d)
    return Datum.putEntry (Datum.text "default") (.built (.default default)) fields

/-- The fields of a column, which is given by its type alone or by its fields. -/
def columnFields (enums : List (Datum × EnumType)) (name spec : Datum) : Read Entries := do
  let fields ← match spec with
    | .atom (.text s) => pure [(Datum.text "type", Datum.text s)]
    | d => entriesOf d
  match (Datum.field? "type" fields).bind Datum.text? with
  | none => throw (.noType (← plain name))
  | some s =>
    let type ← typeNamed enums s
    withDefault (plain name)
      (Datum.putEntry (Datum.text "type") (.built (.type type)) fields)

/-- The columns of a table, each with its fields. -/
def columns (enums : List (Datum × EnumType)) : Entries → Read Entries
  | [] => .ok []
  | (name, spec) :: es => do
    let fields ← columnFields enums name spec
    return (name, .map fields) :: (← columns enums es)

/-- A table under its name. -/
def table (enums : List (Datum × EnumType)) (name spec : Datum) : Read Table := do
  let fields ← if spec.truthy then entriesOf spec else pure []
  let named := Datum.putEntry (Datum.text "name") name fields
  let cols ← columns enums (← sectionEntries "columns" named)
  constructed (Table.ofFields (Datum.putEntry (Datum.text "columns") (.map cols) named))

/-- The tables of a document. -/
def tables (enums : List (Datum × EnumType)) : Entries → Read (List Table)
  | [] => .ok []
  | (name, spec) :: es => do
    let t ← table enums name spec
    return t :: (← tables enums es)

/-- The declarations of a document. -/
def read (d : Datum) : Read Declarations :=
  match d with
  | .map entries => do
    let extensions ← extensions entries
    let enums ← enums (← sectionEntries "enums" entries)
    let tables ← tables enums (← sectionEntries "tables" entries)
    return ⟨extensions, tables⟩
  | _ => .error .notMapping

end Document

end TableSchema
