import TableSchema.Yaml.Scalar
import TableSchema.Yaml.Token

/-!
# Tokens of a text

The lexer goes through a text once. Indentation opens and closes block collections. A node on one
line may turn out to be a key when a colon follows it; until then it is remembered as a possible
key, one at a time for each level of flow collections, and the mark of the key is put in front of
its tokens afterwards.
-/

namespace TableSchema.Yaml

open TableSchema.Text

/-- A node that may turn out to be a key. -/
structure PossibleKey where
  /-- The number of tokens before it. -/
  token : Nat
  /-- It has to be a key because of its indentation. -/
  required : Bool
  position : Position
deriving Repr

/-- The state of the lexer. -/
structure Lexer where
  cursor : Cursor
  tokens : Array Token := #[]
  /-- The number of flow collections that are open. -/
  flow : Nat := 0
  /-- The column of the innermost block collection. -/
  indent : Int := -1
  /-- The columns of the block collections around it. -/
  outer : List Int := []
  /-- A key may begin here. -/
  keyAllowed : Bool := true
  /-- The possible key of each level of flow collections. -/
  keys : List (Nat × PossibleKey) := []

namespace Lexer

/-- A step of the lexer. -/
abbrev Step := Except Fault Lexer

/-- The state with a token at the end. -/
def emit (l : Lexer) (t : Token) : Lexer :=
  { l with tokens := l.tokens.push t }

/-- The state with a token before those from place `n` on. -/
def insert (l : Lexer) (n : Nat) (t : Token) : Lexer :=
  { l with tokens := l.tokens.insertIdxIfInBounds n t }

/-- The state after `n` characters. -/
def advance (l : Lexer) (n : Nat) : Lexer :=
  { l with cursor := l.cursor.drop n }

/-- No block collection is opened or closed inside flow collections. -/
def inFlow (l : Lexer) : Bool :=
  l.flow != 0

/-- Possible keys expire at the end of their line and after 1024 characters; one that has to be a
key must not expire. -/
def expireKeys (l : Lexer) : Step :=
  let isStale (k : PossibleKey) : Bool :=
    k.position.line != l.cursor.position.line ||
      1024 < l.cursor.position.index - k.position.index
  if l.keys.any fun k => isStale k.2 && k.2.required then .error .malformed
  else .ok { l with keys := l.keys.filter fun k => !isStale k.2 }

/-- The possible key of this level. -/
def possibleKey? (l : Lexer) : Option PossibleKey :=
  (l.keys.find? fun k => k.1 == l.flow).map (·.2)

/-- The state without the possible key of this level. -/
def forgetKey (l : Lexer) : Lexer :=
  { l with keys := l.keys.filter fun k => k.1 != l.flow }

/-- Gives up the possible key of this level, which must not be required. -/
def dropKey (l : Lexer) : Step :=
  match l.possibleKey? with
  | some k => if k.required then .error .malformed else .ok l.forgetKey
  | none => .ok l

/-- Remembers that a node that begins here may be a key. -/
def saveKey (l : Lexer) : Step :=
  let required := !l.inFlow && l.indent == l.cursor.column
  if l.keyAllowed then do
    let l ← l.dropKey
    return { l with
      keys := (l.flow, ⟨l.tokens.size, required, l.cursor.position⟩) :: l.keys }
  else .ok l

/-- Closes the block collections that are indented more than the column. -/
def closeBlocks (column : Int) (l : Lexer) : List Int → Lexer
  | [] => l
  | i :: is =>
    if column < l.indent then
      closeBlocks column { l.emit .blockEnd with indent := i, outer := is } is
    else l

/-- Closes the block collections that are indented more than the column, outside of flow
collections. -/
def unwind (l : Lexer) (column : Int) : Lexer :=
  if l.inFlow then l else closeBlocks column l l.outer

/-- Opens a block collection at a column if it is indented more than the innermost one; its token is
put at place `n`. -/
def openBlock (l : Lexer) (column : Nat) (n : Nat) (t : Token) : Lexer :=
  if l.indent < column then
    { l.insert n t with indent := column, outer := l.indent :: l.outer }
  else l

/-- Goes to the next token over spaces, comments and line ends; a line end allows keys outside of
flow collections. -/
def toNextToken : Nat → Lexer → Lexer
  | 0, l => l
  | steps + 1, l =>
    let c := (l.cursor.past (· == ' ')).pastComment
    let next := c.pastBreak
    if next.position.line = c.position.line then { l with cursor := c }
    else toNextToken steps { l with cursor := next, keyAllowed := l.keyAllowed || !l.inFlow }

/-! ## Directives, anchors and tags -/

/-- The character belongs to the name of an anchor or a handle. -/
def isWordChar (c : Char) : Bool :=
  isAlphanumeric c || c = '-' || c = '_'

/-- The character belongs to a tag. -/
def isUriChar (c : Char) : Bool :=
  isAlphanumeric c || "-;/?:@&=+$,_.!~*'()[]%".toList.contains c

/-- The digits of a version. -/
def versionNumber (c : Cursor) : Except Fault (Nat × Cursor) :=
  let digits := c.run Char.isDigit
  if digits.isEmpty then .error .malformed
  else .ok (Number.digitsValue 10 digits, c.drop digits.length)

/-- The escaped bytes at the beginning of a tag's text. -/
def uriBytes : List Char → Except Fault (List UInt8)
  | '%' :: a :: b :: cs =>
    match hexValue? a, hexValue? b with
    | some m, some n => do return UInt8.ofNat (16 * m + n) :: (← uriBytes cs)
    | _, _ => .error .malformed
  | '%' :: _ => .error .malformed
  | _ => .ok []

/-- A tag's text with its escaped bytes decoded. -/
def uriText : Nat → List Char → Except Fault (List Char)
  | 0, _ | _, [] => .ok []
  | steps + 1, '%' :: cs => do
    let bytes ← uriBytes ('%' :: cs)
    match String.fromUTF8? ⟨bytes.toArray⟩ with
    | some s => return s.toList ++ (← uriText steps (('%' :: cs).drop (3 * bytes.length)))
    | none => throw .malformed
  | steps + 1, c :: cs => do return c :: (← uriText steps cs)

/-- The text of a tag. -/
def uri (c : Cursor) : Except Fault (String × Cursor) := do
  let cs := c.run isUriChar
  if cs.isEmpty then throw .malformed
  return (String.ofList (← uriText (cs.length + 1) cs), c.drop cs.length)

/-- The handle of a tag: a mark, or a word between two marks. -/
def handle (c : Cursor) : Except Fault (String × Cursor) :=
  match c.rest with
  | '!' :: cs =>
    if cs.head? = some ' ' then .ok ("!", c.drop 1)
    else
      let word := cs.takeWhile isWordChar
      if (cs.drop word.length).head? = some '!' then
        .ok (String.ofList ('!' :: (word ++ ['!'])), c.drop (word.length + 2))
      else .error .malformed
  | _ => .error .malformed

/-- The version of a directive. -/
def versionDirective (c : Cursor) : Except Fault (Token × Cursor) := do
  let (major, c) ← versionNumber (c.past (· == ' '))
  unless c.peek = some '.' do throw .malformed
  let (_, c) ← versionNumber (c.drop 1)
  unless isSpaceOrEnd c.peek do throw .malformed
  return (.versionDirective major, c)

/-- The handle of a directive and what it stands for. -/
def tagDirective (c : Cursor) : Except Fault (Token × Cursor) := do
  let (name, c) ← handle (c.past (· == ' '))
  unless c.peek = some ' ' do throw .malformed
  let (expansion, c) ← uri (c.past (· == ' '))
  unless isSpaceOrEnd c.peek do throw .malformed
  return (.tagDirective name expansion, c)

/-- A directive. -/
def directive (c : Cursor) : Except Fault (Token × Cursor) := do
  let c := c.drop 1
  let name := c.run isWordChar
  let c := c.drop name.length
  if name.isEmpty || !isSpaceOrEnd c.peek then throw .malformed
  let (t, c) ← match String.ofList name with
    | "YAML" => versionDirective c
    | "TAG" => tagDirective c
    | _ => .ok (.otherDirective, c.past fun d => !isBreak d)
  return (t, ← c.pastBlankLine)

/-- The name of an anchor or an alias after its mark. -/
def anchorName (c : Cursor) : Except Fault (String × Cursor) :=
  let c := c.drop 1
  let name := c.run isWordChar
  let c := c.drop name.length
  let closed := isGap c.peek || "?:,]\x7d%@\x60".toList.contains (c.peek.getD ' ')
  if name.isEmpty || !closed then .error .malformed
  else .ok (String.ofList name, c)

/-- The tag between angle brackets, or with a handle. -/
def tagParts (c : Cursor) : Except Fault (Token × Cursor) := do
  match c.peekAt 1 with
  | some '<' =>
    let (suffix, c) ← uri (c.drop 2)
    if c.peek = some '>' then return (.tag none suffix, c.drop 1) else throw .malformed
  | next =>
    if isGap next then return (.tag none "!", c.drop 1)
    else
      let word := (c.rest.drop 1).takeWhile fun d => !isSpaceOrEnd (some d)
      let (name, c) ← if word.contains '!' then handle c else .ok ("!", c.drop 1)
      let (suffix, c) ← uri c
      return (.tag (some name) suffix, c)

/-- A tag. -/
def tag (c : Cursor) : Except Fault (Token × Cursor) := do
  let (t, c) ← tagParts c
  if isSpaceOrEnd c.peek then return (t, c) else throw .malformed

/-! ## Steps -/

/-- A mark that ends all block collections: a directive or the border of a document. -/
def atBorder (l : Lexer) : Step := do
  let l ← (l.unwind (-1)).dropKey
  return { l with keyAllowed := false }

/-- The border of a document. -/
def documentMark (l : Lexer) (t : Token) : Step := do
  return ((← l.atBorder).emit t).advance 3

/-- The beginning of a flow collection. -/
def flowStart (l : Lexer) (t : Token) : Step := do
  let l ← l.saveKey
  return ({ l with flow := l.flow + 1, keyAllowed := true }.emit t).advance 1

/-- The end of a flow collection. -/
def flowEnd (l : Lexer) (t : Token) : Step := do
  let l ← l.dropKey
  if l.flow = 0 then throw .malformed
  return ({ l with flow := l.flow - 1, keyAllowed := false }.emit t).advance 1

/-- The mark between entries of a flow collection. -/
def flowEntry (l : Lexer) : Step := do
  let l ← { l with keyAllowed := true }.dropKey
  return (l.emit .flowEntry).advance 1

/-- The mark of an entry of a block sequence. -/
def blockEntry (l : Lexer) : Step := do
  if !l.inFlow && !l.keyAllowed then throw .malformed
  let l := if l.inFlow then l
    else l.openBlock l.cursor.column l.tokens.size .blockSequenceStart
  let l ← { l with keyAllowed := true }.dropKey
  return (l.emit .blockEntry).advance 1

/-- The mark of a key. -/
def key (l : Lexer) : Step := do
  if !l.inFlow && !l.keyAllowed then throw .malformed
  let l := if l.inFlow then l
    else l.openBlock l.cursor.column l.tokens.size .blockMappingStart
  let l ← { l with keyAllowed := !l.inFlow }.dropKey
  return (l.emit .key).advance 1

/-- The mark of a value: of the possible key before it, or of a key that is left out. -/
def value (l : Lexer) : Step := do
  match l.possibleKey? with
  | some k =>
    let l := l.forgetKey.insert k.token .key
    let l := if l.inFlow then l else l.openBlock k.position.column k.token .blockMappingStart
    return ({ l with keyAllowed := false }.emit .value).advance 1
  | none =>
    if !l.inFlow && !l.keyAllowed then throw .malformed
    let l := if l.inFlow then l
      else l.openBlock l.cursor.column l.tokens.size .blockMappingStart
    let l ← { l with keyAllowed := !l.inFlow }.dropKey
    return (l.emit .value).advance 1

/-- A property or a content that may begin a key. -/
def node (l : Lexer) (read : Cursor → Except Fault (Token × Cursor)) : Step := do
  let l ← l.saveKey
  let (t, c) ← read l.cursor
  return { l with keyAllowed := false, cursor := c }.emit t

/-- The token of an anchor or an alias. -/
def named (make : String → Token) (c : Cursor) : Except Fault (Token × Cursor) := do
  let (name, c) ← anchorName c
  return (make name, c)

/-- The token of a quoted scalar. -/
def quoted (double : Bool) (c : Cursor) : Except Fault (Token × Cursor) := do
  let (text, c) ← quotedScalar double c
  return (.scalar (String.ofList text) false, c)

/-- A plain scalar; a line end in or after it allows a key again. -/
def plain (l : Lexer) : Step := do
  let l ← l.saveKey
  let s := plainScalar l.inFlow (l.indent + 1) l.cursor
  return { l with keyAllowed := s.broken, cursor := s.cursor }.emit
    (.scalar (String.ofList s.text) true)

/-- A block scalar. -/
def block (l : Lexer) (fold : Bool) : Step := do
  let l ← { l with keyAllowed := true }.dropKey
  let (text, c) ← blockScalar fold l.indent l.cursor
  return { l with cursor := c }.emit (.scalar (String.ofList text) false)

/-- A plain scalar may begin with the first of the characters. -/
def startsPlain (l : Lexer) (c : Char) (next : Option Char) : Bool :=
  !(isGap (some c) || "-?:,[]\x7b\x7d#&*!|>'\"%@\x60".toList.contains c) ||
    (!isGap next && (c = '-' || (!l.inFlow && (c = '?' || c = ':'))))

/-- The step that the next character asks for. -/
def next (l : Lexer) (c : Char) : Step :=
  let cursor := l.cursor
  let after := cursor.peekAt 1
  let atMargin := cursor.column = 0
  let separates := atMargin && startsSeparator cursor.rest
  if c = '%' && atMargin then do
    let l ← l.atBorder
    let (t, cursor) ← directive cursor
    return { l with cursor := cursor }.emit t
  else if c = '-' && separates then l.documentMark .documentStart
  else if c = '.' && separates then l.documentMark .documentEnd
  else if c = '[' then l.flowStart .flowSequenceStart
  else if c = '\x7b' then l.flowStart .flowMappingStart
  else if c = ']' then l.flowEnd .flowSequenceEnd
  else if c = '\x7d' then l.flowEnd .flowMappingEnd
  else if c = ',' then l.flowEntry
  else if c = '-' && isGap after then l.blockEntry
  else if c = '?' && (l.inFlow || isGap after) then l.key
  else if c = ':' && (l.inFlow || isGap after) then l.value
  else if c = '*' then l.node (named .alias)
  else if c = '&' then l.node (named .anchor)
  else if c = '!' then l.node tag
  else if c = '|' && !l.inFlow then l.block false
  else if c = '>' && !l.inFlow then l.block true
  else if c = '\'' then l.node (quoted false)
  else if c = '"' then l.node (quoted true)
  else if l.startsPlain c after then l.plain
  else .error .malformed

/-- The end of the text. -/
def finish (l : Lexer) : Step := do
  return (← l.atBorder).emit .streamEnd

/-- The tokens from a state on, and the fault that ended them if there is one. -/
def tokensFrom : Nat → Lexer → List Token × Option Fault
  | 0, l => (l.tokens.toList, some .malformed)
  | steps + 1, l =>
    match (toNextToken (l.cursor.rest.length + 1) l).expireKeys with
    | .error f => (l.tokens.toList, some f)
    | .ok l =>
      let l := l.unwind l.cursor.column
      match l.cursor.peek with
      | none =>
        match l.finish with
        | .ok l => (l.tokens.toList, none)
        | .error f => (l.tokens.toList, some f)
      | some c =>
        match l.next c with
        | .ok l => tokensFrom steps l
        | .error f => (l.tokens.toList, some f)

/-- The text without a byte order mark at its beginning. -/
def withoutMark : List Char → List Char
  | '\ufeff' :: cs => cs
  | cs => cs

end Lexer

/-- The tokens of a text.  A fault cuts them off; what comes before it may be of use. -/
def tokens (cs : List Char) : List Token × Option Fault :=
  let cs := Lexer.withoutMark cs
  Lexer.tokensFrom (2 * cs.length + 2) { cursor := .start cs }

end TableSchema.Yaml
