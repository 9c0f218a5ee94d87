/-!
# Closed vocabularies

A closed vocabulary is an enumeration whose members have words.  Besides its word a member has the
name of a constant: the word in capitals with underscores for spaces.
-/

namespace TableSchema

/-- An enumeration with all its members in order and a word for each. -/
class Vocabulary (α : Type) where
  members : List α
  word : α → String

namespace Vocabulary

variable {α : Type} [Vocabulary α]

/-- The member with this word. -/
def ofWord? (w : String) : Option α :=
  (members (α := α)).find? fun a => word a == w

/-- The constant's name of a member. -/
def constantName (a : α) : String :=
  (word a).map fun c => if c = ' ' then '_' else c.toUpper

/-- The member as messages show it inside its vocabulary of the given name. -/
def shownIn (vocabulary : String) (a : α) : String :=
  "<" ++ vocabulary ++ "." ++ constantName a ++ ": '" ++ word a ++ "'>"

end Vocabulary

/-- What happens to the rows that refer to a row that is deleted or changed. -/
inductive ReferentialAction where
  | noAction
  | restrict
  | cascade
  | setNull
  | setDefault
deriving DecidableEq, Repr

instance : Vocabulary ReferentialAction where
  members := [.noAction, .restrict, .cascade, .setNull, .setDefault]
  word
    | .noAction => "NO ACTION"
    | .restrict => "RESTRICT"
    | .cascade => "CASCADE"
    | .setNull => "SET NULL"
    | .setDefault => "SET DEFAULT"

/-- Whether a column default is a value or an expression of SQL. -/
inductive DefaultKind where
  | value
  | sql
deriving DecidableEq, Repr

instance : Vocabulary DefaultKind where
  members := [.value, .sql]
  word
    | .value => "value"
    | .sql => "sql"

/-- How TypeScript shows that a column may be null: by an optional field or by a union with null. -/
inductive NullableStyle where
  | optional
  | union
deriving DecidableEq, Repr

instance : Vocabulary NullableStyle where
  members := [.optional, .union]
  word
    | .optional => "optional"
    | .union => "union"

end TableSchema
