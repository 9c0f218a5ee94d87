import TableSchema.Text.CodePoints
import TableSchema.Yaml.Data
import TableSchema.Yaml.Lexer
import TableSchema.Yaml.Node.OfTokens

/-!
# Reading YAML

A text stands for the datum of its only document; a text without a document stands for null.
-/

namespace TableSchema.Yaml

/-- The code points that a text may hold. -/
def textRanges : List (Nat × Nat) := [
    (0x9, 0xa), (0xd, 0xd), (0x20, 0x7e), (0x85, 0x85), (0xa0, 0xd7ff), (0xe000, 0xfffd),
    (0x10000, 0x10ffff)]

/-- A text may hold the character. -/
def isTextChar (c : Char) : Bool :=
  Text.inRanges textRanges c.toNat

/-- A text whose lines end in line feeds only. -/
def withLineFeeds : List Char → List Char
  | '\r' :: '\n' :: cs => '\n' :: withLineFeeds cs
  | '\r' :: cs => '\n' :: withLineFeeds cs
  | c :: cs => c :: withLineFeeds cs
  | [] => []

/-- The document of a text, if there is one. -/
def document? (text : String) : Except Fault (Option Node) := do
  let cs := withLineFeeds text.toList
  unless cs.all isTextChar do throw .malformed
  let (tokens, fault) := tokens cs
  Node.ofTokens tokens fault

/-- The datum of a text. -/
def read (text : String) : Except Fault Datum := do
  match ← document? text with
  | none => return Datum.null
  | some n => (n.datum 0).mapError (·.2)

end TableSchema.Yaml
