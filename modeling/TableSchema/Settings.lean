import TableSchema.Vocabulary

/-!
# Settings of the generators

The settings say how far lines are indented, whether a banner stands around the output and under
what label, how identifiers and enumerations are written in SQL, and how nullable columns are shown
in TypeScript.
-/

namespace TableSchema

/-- The choice of a nullable style by a word that need not be the word of a style. -/
inductive StyleChoice where
  | style (s : NullableStyle)
  | unknown (word : String)
deriving DecidableEq, Repr

namespace StyleChoice

/-- The word of the choice. -/
def word : StyleChoice → String
  | .style s => Vocabulary.word s
  | .unknown w => w

/-- The choice that a word makes. -/
def ofWord (w : String) : StyleChoice :=
  match Vocabulary.ofWord? w with
  | some s => .style s
  | none => .unknown w

end StyleChoice

/-- How scripts and declarations are written. -/
structure Settings where
  sqlIndent : Nat := 2
  typescriptIndent : Nat := 2
  includeBanner : Bool := true
  bannerLabel : String := "pgschema"
  quoteIdentifiers : Bool := false
  guardEnumTypes : Bool := false
  nullableStyle : StyleChoice := .style .optional
deriving DecidableEq, Repr

instance : Inhabited Settings := ⟨{}⟩

/-- As many spaces. -/
def spaces (n : Nat) : String :=
  String.ofList (List.replicate n ' ')

namespace Settings

/-- The indentation of lines in SQL. -/
def sqlIndentText (s : Settings) : String :=
  spaces s.sqlIndent

/-- The indentation of lines in TypeScript. -/
def typescriptIndentText (s : Settings) : String :=
  spaces s.typescriptIndent

/-- Nullable columns are shown as unions with null. -/
def showsUnions (s : Settings) : Bool :=
  s.nullableStyle == .style .union

/-- The line that marks the beginning or the end of the output. -/
def bannerLine (s : Settings) (marker : String) : String :=
  marker ++ " AUTO GENERATED CONTENT BY " ++ s.bannerLabel ++ " -- DO NOT EDIT"

/-- The body between its banners, or alone and ended by a line break. -/
def wrap (s : Settings) (banner : String → String) (body : String) : String :=
  if s.includeBanner then banner "BEGIN" ++ body ++ "\n" ++ banner "END"
  else if body = "" then "" else body ++ "\n"

end Settings

end TableSchema
