import TableSchema.Grouping
import TableSchema.Yaml.Fault
import TableSchema.Yaml.Node
import TableSchema.Yaml.Token

/-!
# Nodes of tokens

A text holds at most one document. A node is an alias, or has properties and a content; a content
that is left out is null. An alias stands for the node with its anchor; inside that node, where it
is not yet known, it stands for an empty collection.
-/

namespace TableSchema.Yaml

/-- Tokens that are still to be read, and what is known about anchors and handles. -/
structure Parser where
  tokens : List Token
  /-- Why there are no more tokens. -/
  fault : Fault
  anchors : List (String × Node) := []
  handles : List (String × String) := []

namespace Parser

/-- A step that reads tokens. -/
abbrev Parse := StateT Parser (Except Fault)

/-- A text that is not well formed. -/
def malformed {α : Type} : Parse α :=
  throw .malformed

/-- The next token. -/
def peek : Parse Token := do
  let p ← get
  match p.tokens with
  | t :: _ => return t
  | [] => throw p.fault

/-- Skips a token. -/
def skip : Parse Unit :=
  modify fun p => { p with tokens := p.tokens.tail }

/-- Skips the token if it is the next one. -/
def accept (t : Token) : Parse Bool := do
  if (← peek) = t then
    skip
    return true
  else return false

/-- Skips the token, which has to be the next one. -/
def expect (t : Token) : Parse Unit := do
  unless ← accept t do malformed

/-! ## Properties -/

/-- The anchor and the full name of the tag of a node. -/
structure Properties where
  anchor : Option String := none
  tag : Option String := none

/-- An anchor, if one is next. -/
def anchor? : Parse (Option String) := do
  match ← peek with
  | .anchor name =>
    skip
    return some name
  | _ => return none

/-- A tag, if one is next, with what its handle stands for. -/
def tag? : Parse (Option (Option String × String)) := do
  match ← peek with
  | .tag handle suffix =>
    skip
    return some (handle, suffix)
  | _ => return none

/-- The full name of a tag. -/
def fullName : Option String × String → Parse String
  | (none, suffix) => return suffix
  | (some handle, suffix) => do
    match lookupFirst handle (← get).handles with
    | some expansion => return expansion ++ suffix
    | none => malformed

/-- The properties of a node in either order. -/
def properties : Parse Properties := do
  let before ← anchor?
  let tag ← tag?
  let anchor ← if before.isSome || tag.isNone then pure before else anchor?
  return ⟨anchor, ← tag.mapM fullName⟩

namespace Properties

/-- The node has no properties. -/
def isEmpty (p : Properties) : Bool :=
  p.anchor.isNone && p.tag.isNone

/-- The tag of a collection. -/
def collectionTag (default : Tag) (p : Properties) : Tag :=
  match p.tag with
  | none | some "!" => default
  | some name => .ofName name

/-- The tag of a scalar. -/
def scalarTag (text : String) (plain : Bool) (p : Properties) : Tag :=
  match p.tag with
  | none => if plain then .ofPlain text else .str
  | some "!" => .ofPlain text
  | some name => .ofName name

end Properties

/-- Gives a node its anchor. -/
def name (anchor : Option String) (n : Node) : Parse Unit :=
  match anchor with
  | some a => modify fun p => { p with anchors := (a, n) :: p.anchors }
  | none => pure ()

/-- An anchor that is not in use. -/
def fresh (anchor : Option String) : Parse Unit := do
  let p ← get
  if anchor.any fun a => (p.anchors.map (·.1)).contains a then malformed

/-- A scalar with the given properties. -/
def scalar (p : Properties) (text : String) (plain : Bool) : Parse Node := do
  fresh p.anchor
  let n := Node.scalar (p.scalarTag text plain) text
  name p.anchor n
  return n

/-- A sequence with the given properties. -/
def sequence (p : Properties) (items : Parse (List Node)) : Parse Node := do
  let tag := p.collectionTag .seq
  fresh p.anchor
  name p.anchor (.sequence tag [])
  let n := Node.sequence tag (← items)
  name p.anchor n
  return n

/-- A mapping with the given properties. -/
def mapping (p : Properties) (entries : Parse (List (Node × Node))) : Parse Node := do
  let tag := p.collectionTag .map
  fresh p.anchor
  name p.anchor (.mapping tag [])
  let n := Node.mapping tag (← entries)
  name p.anchor n
  return n

/-- The node that an alias stands for. -/
def aliased (name : String) : Parse Node := do
  match lookupFirst name (← get).anchors with
  | some n => return n
  | none => malformed

/-! ## Contents -/

/-- Where a node stands: block collections begin only in blocks, and a sequence that is not indented
only as key or value of a block mapping. -/
inductive Site where
  | flow
  | block
  | entry
deriving DecidableEq

/-- A node, or the empty one if one of the tokens is next. -/
def orEmpty (stops : List Token) (node : Parse Node) : Parse Node := do
  if stops.contains (← peek) then return .empty else node

/-- A value with its mark, or nothing. -/
def valueOr (stops : List Token) (node : Parse Node) : Parse Node := do
  if ← accept .value then orEmpty stops node else return .empty

mutual

/-- A node. -/
def node (site : Site) : Nat → Parse Node
  | 0 => malformed
  | steps + 1 => do
    match ← peek with
    | .alias name =>
      skip
      aliased name
    | _ =>
      let p ← properties
      match ← peek, site with
      | .blockEntry, .entry => sequence p (indentlessItems steps)
      | .scalar text plain, _ =>
        skip
        scalar p text plain
      | .flowSequenceStart, _ =>
        skip
        sequence p (flowItems true steps)
      | .flowMappingStart, _ =>
        skip
        mapping p (flowEntries true steps)
      | .blockSequenceStart, .block | .blockSequenceStart, .entry =>
        skip
        sequence p (blockItems steps)
      | .blockMappingStart, .block | .blockMappingStart, .entry =>
        skip
        mapping p (blockEntries steps)
      | _, _ => if p.isEmpty then malformed else scalar p "" true

/-- The items of a block sequence. -/
def blockItems : Nat → Parse (List Node)
  | 0 => malformed
  | steps + 1 => do
    if ← accept .blockEntry then
      let n ← orEmpty [.blockEntry, .blockEnd] (node .block steps)
      return n :: (← blockItems steps)
    else
      expect .blockEnd
      return []

/-- The items of a block sequence that is not indented. -/
def indentlessItems : Nat → Parse (List Node)
  | 0 => malformed
  | steps + 1 => do
    if ← accept .blockEntry then
      let n ← orEmpty [.blockEntry, .key, .value, .blockEnd] (node .block steps)
      return n :: (← indentlessItems steps)
    else return []

/-- The entries of a block mapping. -/
def blockEntries : Nat → Parse (List (Node × Node))
  | 0 => malformed
  | steps + 1 => do
    let stops := [.key, .value, .blockEnd]
    if ← accept .key then
      let k ← orEmpty stops (node .entry steps)
      let v ← valueOr stops (node .entry steps)
      return (k, v) :: (← blockEntries steps)
    else
      expect .blockEnd
      return []

/-- The items of a flow sequence; an entry of a mapping alone is a mapping. -/
def flowItems (first : Bool) : Nat → Parse (List Node)
  | 0 => malformed
  | steps + 1 => do
    if ← accept .flowSequenceEnd then return []
    else
      if !first then expect .flowEntry
      if ← accept .key then
        let k ← orEmpty [.value, .flowEntry, .flowSequenceEnd] (node .flow steps)
        let v ← valueOr [.flowEntry, .flowSequenceEnd] (node .flow steps)
        return .mapping .map [(k, v)] :: (← flowItems false steps)
      else if ← accept .flowSequenceEnd then return []
      else
        let n ← node .flow steps
        return n :: (← flowItems false steps)

/-- The entries of a flow mapping. -/
def flowEntries (first : Bool) : Nat → Parse (List (Node × Node))
  | 0 => malformed
  | steps + 1 => do
    if ← accept .flowMappingEnd then return []
    else
      if !first then expect .flowEntry
      if ← accept .key then
        let k ← orEmpty [.value, .flowEntry, .flowMappingEnd] (node .flow steps)
        let v ← valueOr [.flowEntry, .flowMappingEnd] (node .flow steps)
        return (k, v) :: (← flowEntries false steps)
      else if ← accept .flowMappingEnd then return []
      else
        let k ← node .flow steps
        return (k, .empty) :: (← flowEntries false steps)

end

/-! ## Documents -/

/-- What handles stand for unless a directive says otherwise. -/
def defaultHandles : List (String × String) := [("!", "!"), ("!!", Tag.standardHandle)]

/-- The directives of a document; each may be given once. -/
def directives : (versioned : Bool) → Nat → Parse Unit
  | _, 0 => malformed
  | versioned, steps + 1 => do
    match ← peek with
    | .versionDirective major =>
      if versioned || major != 1 then malformed
      skip
      directives true steps
    | .tagDirective handle expansion =>
      if ((← get).handles.map (·.1)).contains handle then malformed
      skip
      modify fun p => { p with handles := (handle, expansion) :: p.handles }
      directives versioned steps
    | .otherDirective =>
      skip
      directives versioned steps
    | _ => pure ()

/-- Tokens that end a document without a content. -/
def endsContent : Token → Bool
  | .versionDirective _ | .tagDirective .. | .otherDirective | .documentStart | .documentEnd
  | .streamEnd => true
  | _ => false

/-- Skips marks of the end of a document. -/
def skipEnds : Nat → Parse Unit
  | 0 => malformed
  | steps + 1 => do
    if ← accept .documentEnd then skipEnds steps

/-- Sets the handles that no directive has set. -/
def addDefaultHandles : Parse Unit :=
  modify fun p => { p with handles := p.handles ++ defaultHandles }

/-- The content of a document that begins with directives or a mark. -/
def explicitDocument (steps : Nat) : Parse Node := do
  directives false steps
  expect .documentStart
  addDefaultHandles
  if endsContent (← peek) then return .empty else node .block steps

/-- The content of a document that begins with its content. -/
def bareDocument (steps : Nat) : Parse Node := do
  addDefaultHandles
  node .block steps

/-- The only document of a text, if there is one. -/
def document? (steps : Nat) : Parse (Option Node) := do
  match ← peek with
  | .streamEnd => return none
  | t =>
    let explicit := endsContent t && t != .documentEnd
    let n ← if explicit then explicitDocument steps else bareDocument steps
    skipEnds steps
    expect .streamEnd
    return some n

end Parser

/-- The document of tokens, which end in a fault or are complete. -/
def Node.ofTokens (tokens : List Token) (fault : Option Fault) : Except Fault (Option Node) :=
  (Parser.document? (2 * tokens.length + 2)).run'
    { tokens := tokens, fault := fault.getD .malformed }

end TableSchema.Yaml
