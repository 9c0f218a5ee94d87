/-!
# Fragments of SQL

A statement is put together from fragments that are written in three ways: verbatim, as a quoted
identifier, or as a string constant.  A string constant cannot hold the character of code zero; all
other texts can be written in each way.
-/

namespace TableSchema.Sql

/-- A piece of a statement. -/
inductive Fragment where
  | verbatim (s : String)
  | identifier (s : String)
  | literal (s : String)
deriving DecidableEq, Repr

/-- A statement or a part of one. -/
abbrev Fragments := List Fragment

/-- The characters with every occurrence of `c` written twice. -/
def doubled (c : Char) (cs : List Char) : List Char :=
  cs.flatMap fun d => if d = c then [d, d] else [d]

/-- An identifier between double quotes; a double quote inside is written twice. -/
def identifierChars (cs : List Char) : List Char :=
  '"' :: (doubled '"' cs ++ ['"'])

/-- A string constant. A quote inside is written twice; a text with backslashes has them doubled
too and is marked as an escaped constant, set off by a space. -/
def literalChars (cs : List Char) : List Char :=
  if '\\' ∈ cs then ' ' :: 'E' :: '\'' :: (doubled '\\' (doubled '\'' cs) ++ ['\''])
  else '\'' :: (doubled '\'' cs ++ ['\''])

/-- Why a statement cannot be written. -/
inductive Fault where
  /-- A name is no text. -/
  | nameNotText
  /-- An integer has too many digits. -/
  | longInteger
  /-- A string constant holds the character of code zero. -/
  | nulInLiteral
deriving DecidableEq, Repr

/-- The message about a string constant that cannot be written. -/
def nulMessage : String :=
  "PostgreSQL text fields cannot contain NUL (0x00) bytes"

/-- The text of a fragment. -/
def Fragment.text : Fragment → Except Fault String
  | .verbatim s => .ok s
  | .identifier s => .ok (String.ofList (identifierChars s.toList))
  | .literal s =>
    if '\x00' ∈ s.toList then .error .nulInLiteral
    else .ok (String.ofList (literalChars s.toList))

/-- The texts of fragments one after the other. -/
def render (fs : Fragments) : Except Fault String := do
  return String.join (← fs.mapM Fragment.text)

/-- The parts with a separator between neighbours. -/
def joinWith (separator : String) (parts : List Fragments) : Fragments :=
  [Fragment.verbatim separator].intercalate parts

theorem render_nil : render [] = .ok "" := rfl

end TableSchema.Sql
