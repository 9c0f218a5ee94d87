import TableSchema.Yaml.Fault

/-!
# Places in a text

A cursor is the rest of a text with its place: the count of characters before it, the line and the
column.  Besides the line feed three further characters end a line.
-/

namespace TableSchema.Yaml

/-- The character ends a line. -/
def isBreak (c : Char) : Bool :=
  c = '\n' || c = '\x85' || c = '\u2028' || c = '\u2029'

/-- What the end of a line stands for: a line feed, or one of the two separators itself. -/
def breakText (c : Char) : Char :=
  if c = '\x85' then '\n' else c

/-- The end of the text or of a line. -/
def isLineEnd : Option Char → Bool
  | none => true
  | some c => isBreak c

/-- The end of the text or of a line, or a space. -/
def isSpaceOrEnd : Option Char → Bool
  | some ' ' => true
  | c => isLineEnd c

/-- The end of the text or of a line, a space or a tab. -/
def isGap : Option Char → Bool
  | some '\t' => true
  | c => isSpaceOrEnd c

/-- A line of three hyphens or three points, which separates documents, begins here. -/
def startsSeparator : List Char → Bool
  | '-' :: '-' :: '-' :: cs | '.' :: '.' :: '.' :: cs => isGap cs.head?
  | _ => false

/-- A place in a text. -/
structure Position where
  index : Nat
  line : Nat
  column : Nat
deriving DecidableEq, Repr

/-- The place after a character; a byte order mark takes no column. -/
def Position.after (p : Position) (c : Char) : Position :=
  if isBreak c then ⟨p.index + 1, p.line + 1, 0⟩
  else if c = '\ufeff' then ⟨p.index + 1, p.line, p.column⟩
  else ⟨p.index + 1, p.line, p.column + 1⟩

/-- The rest of a text with its place. -/
structure Cursor where
  rest : List Char
  position : Position
deriving Repr

namespace Cursor

/-- The beginning of a text. -/
def start (cs : List Char) : Cursor := ⟨cs, ⟨0, 0, 0⟩⟩

/-- The next character. -/
def peek (c : Cursor) : Option Char := c.rest.head?

/-- The character after `n` others. -/
def peekAt (c : Cursor) (n : Nat) : Option Char := c.rest[n]?

/-- The column of the next character. -/
def column (c : Cursor) : Nat := c.position.column

/-- The cursor after `n` characters. -/
def drop (c : Cursor) (n : Nat) : Cursor :=
  ⟨c.rest.drop n, (c.rest.take n).foldl Position.after c.position⟩

/-- The characters up to the first that fails the test. -/
def run (c : Cursor) (p : Char → Bool) : List Char := c.rest.takeWhile p

/-- The cursor at the first character that fails the test. -/
def past (c : Cursor) (p : Char → Bool) : Cursor := c.drop (c.run p).length

/-- The cursor at a later rest of the same text. -/
def goTo (c : Cursor) (rest : List Char) : Cursor := c.drop (c.rest.length - rest.length)

/-- The cursor after a comment, if one begins here. -/
def pastComment (c : Cursor) : Cursor :=
  if c.peek = some '#' then c.past fun d => !isBreak d else c

/-- The cursor after the end of a line, if it is here. -/
def pastBreak (c : Cursor) : Cursor :=
  match c.peek with
  | some d => if isBreak d then c.drop 1 else c
  | none => c

/-- The rest of a line that may only hold spaces and a comment. -/
def pastBlankLine (c : Cursor) : Except Fault Cursor :=
  let c := (c.past (· == ' ')).pastComment
  if isLineEnd c.peek then .ok c.pastBreak else .error .malformed

end Cursor

end TableSchema.Yaml
