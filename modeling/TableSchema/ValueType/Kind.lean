import TableSchema.Vocabulary

/-!
# Kinds of value types

A kind is one of twelve scalars, one of two character kinds that carry a length, or the kind of
enumerations declared by the user.  Every kind has a word; scalar and character kinds have fixed
names in SQL and in TypeScript.
-/

namespace TableSchema

/-- A kind of fixed type. -/
inductive ScalarKind where
  | smallint
  | integer
  | bigint
  | real
  | double
  | smallserial
  | serial
  | bigserial
  | boolean
  | timestamp
  | text
  | uuid
deriving DecidableEq, Repr

instance : Vocabulary ScalarKind where
  members := [.smallint, .integer, .bigint, .real, .double, .smallserial, .serial, .bigserial,
    .boolean, .timestamp, .text, .uuid]
  word
    | .smallint => "smallint"
    | .integer => "integer"
    | .bigint => "bigint"
    | .real => "real"
    | .double => "double"
    | .smallserial => "smallserial"
    | .serial => "serial"
    | .bigserial => "bigserial"
    | .boolean => "boolean"
    | .timestamp => "timestamp"
    | .text => "text"
    | .uuid => "uuid"

/-- The name of a scalar kind in SQL. -/
def ScalarKind.sqlName : ScalarKind → String
  | .smallint => "SMALLINT"
  | .integer => "INTEGER"
  | .bigint => "BIGINT"
  | .real => "REAL"
  | .double => "DOUBLE PRECISION"
  | .smallserial => "SMALLSERIAL"
  | .serial => "SERIAL"
  | .bigserial => "BIGSERIAL"
  | .boolean => "BOOLEAN"
  | .timestamp => "TIMESTAMP WITHOUT TIME ZONE"
  | .text => "TEXT"
  | .uuid => "UUID"

/-- The type that represents a scalar kind in TypeScript. -/
def ScalarKind.typescriptName : ScalarKind → String
  | .bigint | .bigserial => "bigint"
  | .smallint | .integer | .real | .double | .smallserial | .serial => "number"
  | .boolean => "boolean"
  | .timestamp | .text | .uuid => "string"

/-- A kind of text of limited length: padded to the length, or of any length up to it. -/
inductive CharacterKind where
  | char
  | varchar
deriving DecidableEq, Repr

instance : Vocabulary CharacterKind where
  members := [.char, .varchar]
  word
    | .char => "char"
    | .varchar => "varchar"

/-- The name of a character kind in SQL, to which the length is appended. -/
def CharacterKind.sqlName : CharacterKind → String
  | .char => "CHAR"
  | .varchar => "VARCHAR"

/-- The kind of a value type. -/
inductive ValueKind where
  | scalar (kind : ScalarKind)
  | character (kind : CharacterKind)
  | userDefined
deriving DecidableEq, Repr

instance : Vocabulary ValueKind where
  members := (Vocabulary.members.map .scalar) ++ (Vocabulary.members.map .character) ++
    [.userDefined]
  word
    | .scalar k => Vocabulary.word k
    | .character k => Vocabulary.word k
    | .userDefined => "user_defined"

namespace ValueKind

/-- Types of this kind carry a length. -/
def isParametrized : ValueKind → Bool
  | .character _ => true
  | _ => false

/-- Types of this kind are enumerations. -/
def isUserDefined : ValueKind → Bool
  | .userDefined => true
  | _ => false

/-- The kind as messages show it. -/
def shown (k : ValueKind) : String :=
  Vocabulary.shownIn "ValueKind" k

end ValueKind

end TableSchema
