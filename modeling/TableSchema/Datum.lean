import TableSchema.Table

/-!
# Data

A datum is what a parsed document or a caller hands over: an atom, a collection of data, or an
object of a schema that was built before. A mapping is a list of entries in the order in which
their keys came first; no two keys of it are the same.
-/

namespace TableSchema

/-- An object of a schema that was built before it is handed over. -/
inductive Built where
  | type (t : ValueType)
  | default (d : ColumnDefault)
  | column (c : Column)
  | table (t : Table)
  | foreignKey (k : ForeignKey)
  | reference (r : ColumnReference)
  | check (c : CheckConstraint)
deriving DecidableEq, Repr

/-- A value of any shape. -/
inductive Datum where
  | atom (a : Atom)
  | list (items : List Datum)
  | tuple (items : List Datum)
  | set (items : List Datum)
  | map (entries : List (Datum × Datum))
  | built (b : Built)

namespace Built

/-- Objects are the same if they are of one class and have the same fields. -/
def same : Built → Built → Bool
  | .type a, .type b => decide (a.Same b)
  | a, b => a == b

/-- The class of the object. -/
def className : Built → String
  | .type (.scalar _) => "ScalarType"
  | .type (.character _) => "CharacterType"
  | .type (.enumeration _) => "EnumType"
  | .default _ => "ColumnDefault"
  | .column _ => "Column"
  | .table _ => "Table"
  | .foreignKey _ => "ForeignKey"
  | .reference _ => "ColumnReference"
  | .check _ => "CheckConstraint"

end Built

namespace Datum

instance : Inhabited Datum := ⟨.atom .null⟩

/-- Null. -/
def null : Datum := .atom .null

/-- A text. -/
def text (s : String) : Datum := .atom (.text s)

/-- The text, if the datum is one. -/
def text? : Datum → Option String
  | .atom (.text s) => some s
  | _ => none

/-- The word that messages use for the kind of the datum. -/
def typeWord : Datum → String
  | .atom a => a.typeWord
  | .list _ => "list"
  | .tuple _ => "tuple"
  | .set _ => "set"
  | .map _ => "dict"
  | .built b => b.className

mutual

/-- Data are the same if they are of one shape with the same parts; sets and mappings are compared
without regard to order. -/
def same : Datum → Datum → Bool
  | .atom a, .atom b => a.same b
  | .list xs, .list ys => sameAll xs ys
  | .tuple xs, .tuple ys => sameAll xs ys
  | .set xs, .set ys => xs.length == ys.length && allIn xs ys
  | .map xs, .map ys => xs.length == ys.length && entriesIn xs ys
  | .built a, .built b => a.same b
  | _, _ => false

/-- The lists have the same data in the same places. -/
def sameAll : List Datum → List Datum → Bool
  | [], [] => true
  | x :: xs, y :: ys => same x y && sameAll xs ys
  | _, _ => false

/-- Every datum of the first list is in the second. -/
def allIn : List Datum → List Datum → Bool
  | [], _ => true
  | x :: xs, ys => ys.any (fun y => same x y) && allIn xs ys

/-- Every entry of the first list is in the second. -/
def entriesIn : List (Datum × Datum) → List (Datum × Datum) → Bool
  | [], _ => true
  | (k, v) :: es, ys => ys.any (fun e => same k e.1 && same v e.2) && entriesIn es ys

end

mutual

/-- The word of the first part that keeps the datum from being a key; collections that can change
are no keys. -/
def unhashable? : Datum → Option String
  | .atom _ | .built _ => none
  | .tuple items => unhashableIn? items
  | .list _ => some "list"
  | .set _ => some "set"
  | .map _ => some "dict"

/-- The word of the first part in a list that keeps it from being a key. -/
def unhashableIn? : List Datum → Option String
  | [] => none
  | x :: xs =>
    match unhashable? x with
    | some w => some w
    | none => unhashableIn? xs

end

/-- The entries with the value set for a key; a key that is there keeps its place and spelling. -/
def putEntry (key value : Datum) : List (Datum × Datum) → List (Datum × Datum)
  | [] => [(key, value)]
  | e :: es => if e.1.same key then (e.1, value) :: es else e :: putEntry key value es

/-- The entries to which others are written one after the other. -/
def putAll (entries others : List (Datum × Datum)) : List (Datum × Datum) :=
  others.foldl (fun es e => putEntry e.1 e.2 es) entries

/-- The entries of a mapping to which these are written one after the other. -/
def entriesOf (pairs : List (Datum × Datum)) : List (Datum × Datum) :=
  putAll [] pairs

/-- The value of a field in a mapping. -/
def field? (name : String) (entries : List (Datum × Datum)) : Option Datum :=
  (entries.find? fun e => e.1.text? == some name).map (·.2)

/-- The entries without a field. -/
def dropField (name : String) (entries : List (Datum × Datum)) : List (Datum × Datum) :=
  entries.filter fun e => e.1.text? != some name

/-- The data without those that are the same as an earlier one. -/
def distinct : List Datum → List Datum
  | [] => []
  | x :: xs => x :: (distinct xs).filter fun y => !x.same y

/-- Null, false, zero and what is empty count as false. -/
def truthy : Datum → Bool
  | .atom a => a.truthy
  | .list items | .tuple items | .set items => !items.isEmpty
  | .map entries => !entries.isEmpty
  | .built _ => true

/-- The members of a list of objects as one datum. -/
def ofAll {α : Type} (build : α → Built) (items : List α) : Datum :=
  .tuple (items.map fun a => .built (build a))

/-- An action, or null if there is none. -/
def ofAction (a : Option ReferentialAction) : Datum :=
  match a with
  | some a => text (Vocabulary.word a)
  | none => null

/-- The fields of an object in their order. -/
def fieldsOf : Built → List (String × Datum)
  | .type (.scalar k) => [("kind", text (Vocabulary.word k))]
  | .type (.character t) =>
    [("kind", text (Vocabulary.word t.kind)), ("length", .atom (.int t.length))]
  | .type (.enumeration t) =>
    [("kind", text (Vocabulary.word ValueKind.userDefined)), ("name", text t.name),
      ("values", .tuple (t.values.map text))]
  | .default d => [("kind", text (Vocabulary.word d.kind)), ("value", .atom d.value.toAtom)]
  | .column c =>
    [("name", .atom c.name), ("type", .built (.type c.type)),
      ("nullable", .atom (.bool c.nullable)),
      ("default", (c.default.map fun d => .built (.default d)).getD null)]
  | .table t =>
    [("name", text t.name), ("type_name", text t.typeName), ("columns", ofAll .column t.columns),
      ("primary_keys", .tuple (t.primaryKeys.map text)),
      ("foreign_keys", ofAll .foreignKey t.foreignKeys),
      ("constraints", ofAll .check t.constraints)]
  | .foreignKey k =>
    [("table", text k.table), ("columns", ofAll .reference k.columns),
      ("on_delete", ofAction k.onDelete), ("on_update", ofAction k.onUpdate)]
  | .reference r => [("local", text r.localName), ("foreign", text r.foreignName)]
  | .check c => [("name", text c.name), ("expression", text c.expression)]

/-- The entries of a mapping of the object's fields. -/
def fieldEntries (b : Built) : List (Datum × Datum) :=
  (fieldsOf b).map fun f => (text f.1, f.2)

/-- The data that are met on a walk through this one: the characters of a text, the numbers of
bytes, the items of a list, a tuple or a set, the keys of a mapping, the fields of an object. -/
def items? : Datum → Option (List Datum)
  | .atom (.text s) => some (s.toList.map fun c => text c.toString)
  | .atom (.bytes bs) => some (bs.map fun b => .atom (.int b.toNat))
  | .atom _ => none
  | .list items | .tuple items | .set items => some items
  | .map entries => some (entries.map (·.1))
  | .built b => some ((fieldEntries b).map fun e => .tuple [e.1, e.2])

@[simp] theorem text?_text (s : String) : (text s).text? = some s := rfl

end Datum

end TableSchema
