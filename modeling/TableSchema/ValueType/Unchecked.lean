import TableSchema.Text.Quoted
import TableSchema.ValueType

/-!
# Types of unchecked kind

A record of a type whose kind is only a word may hold a kind that is foreign to its class. Its
names are looked up in the table of the class and are missing for every other word.
-/

namespace TableSchema

/-- The class of a type with fixed names. -/
inductive TypeClass where
  | scalar
  | character
deriving DecidableEq, Repr

/-- A type of some class with any word as its kind. -/
structure UncheckedType where
  ofClass : TypeClass
  kind : String
  length : Int
deriving DecidableEq, Repr

namespace UncheckedType

/-- The kind as messages show it: a member of the vocabulary, or the quoted word. -/
def shownKind (t : UncheckedType) : String :=
  match Vocabulary.ofWord? (α := ValueKind) t.kind with
  | some k => k.shown
  | none => Text.quoted t.kind

/-- The name in SQL; an unknown kind is shown instead. -/
def sqlName (t : UncheckedType) : Except String String :=
  match t.ofClass, Vocabulary.ofWord? (α := ValueKind) t.kind with
  | .scalar, some (.scalar k) => .ok k.sqlName
  | .character, some (.character k) => .ok (k.sqlName ++ "(" ++ toString t.length ++ ")")
  | _, _ => .error t.shownKind

/-- The type in TypeScript; an unknown kind is shown instead. -/
def typescriptName (t : UncheckedType) : Except String String :=
  match t.ofClass, Vocabulary.ofWord? (α := ValueKind) t.kind with
  | .scalar, some (.scalar k) => .ok k.typescriptName
  | .character, some (.character _) => .ok "string"
  | _, _ => .error t.shownKind

end UncheckedType

end TableSchema
