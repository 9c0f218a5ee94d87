import TableSchema.Grouping
import TableSchema.Text.Naming
import TableSchema.ValueType.Kind

/-!
# Value types

The value type of a column is a scalar type, a character type with a length, or an enumeration that
the user declares. Two enumerations of one name are the same type whatever their values; other
types are the same if they are equal.
-/

namespace TableSchema

/-- The text has the length of a name: from one to 63 characters. -/
def FitsName (s : String) : Prop :=
  1 ≤ s.length ∧ s.length ≤ 63

instance (s : String) : Decidable (FitsName s) :=
  inferInstanceAs (Decidable (_ ∧ _))

/-- The greatest length of a character type. -/
def maxCharacterLength : Nat := 10485760

/-- A character type with its length. -/
structure CharacterType where
  kind : CharacterKind
  length : Nat
  one_le_length : 1 ≤ length
  length_le : length ≤ maxCharacterLength
deriving DecidableEq, Repr

namespace CharacterType

/-- The name in SQL with the length in parentheses. -/
def sqlName (t : CharacterType) : String :=
  t.kind.sqlName ++ "(" ++ toString t.length ++ ")"

end CharacterType

/-- An enumeration: a name and at least one value. -/
structure EnumType where
  name : String
  values : List String
  name_fits : FitsName name
  values_ne_nil : values ≠ []
deriving DecidableEq, Repr

namespace EnumType

/-- The name of the declaration in TypeScript. -/
def typescriptName (t : EnumType) : String :=
  Text.pascalCase t.name

/-- The member's name of each value in the TypeScript declaration. -/
def memberNames (t : EnumType) : List String :=
  t.values.map Text.pascalCase

/-- The member names that several values share, each with its values. -/
def memberCollisions (t : EnumType) : List (String × List String) :=
  (grouped (t.values.map fun v => (Text.pascalCase v, v))).filter fun g => 1 < g.2.length

end EnumType

/-- The type of the values in a column. -/
inductive ValueType where
  | scalar (kind : ScalarKind)
  | character (type : CharacterType)
  | enumeration (type : EnumType)
deriving DecidableEq, Repr

instance : Inhabited ValueType := ⟨.scalar .text⟩

/-- What tells one value type from another. -/
inductive TypeIdentity where
  | scalar (kind : ScalarKind)
  | character (kind : CharacterKind) (length : Nat)
  | enumeration (name : String)
deriving DecidableEq, Repr

namespace ValueType

/-- The kind of the type. -/
def kind : ValueType → ValueKind
  | .scalar k => .scalar k
  | .character t => .character t.kind
  | .enumeration _ => .userDefined

/-- What the type has in common with all types that are the same. -/
def identity : ValueType → TypeIdentity
  | .scalar k => .scalar k
  | .character t => .character t.kind t.length
  | .enumeration t => .enumeration t.name

/-- The types are the same: enumerations of one name, or equal types. -/
def Same (a b : ValueType) : Prop :=
  a.identity = b.identity

instance (a b : ValueType) : Decidable (a.Same b) :=
  inferInstanceAs (Decidable (_ = _))

/-- The name in SQL; an enumeration has its own. -/
def sqlName : ValueType → String
  | .scalar k => k.sqlName
  | .character t => t.sqlName
  | .enumeration t => t.name

/-- The type that represents the values in TypeScript. -/
def typescriptName : ValueType → String
  | .scalar k => k.typescriptName
  | .character _ => "string"
  | .enumeration t => t.typescriptName

/-- The enumeration, if the type is one. -/
def enum? : ValueType → Option EnumType
  | .enumeration t => some t
  | _ => none

end ValueType

/-- The message about a type that no table of names knows. -/
def unsupportedMessage (shown : String) : String :=
  "Unsupported value type: " ++ shown

end TableSchema
