import TableSchema.Number.IntegerText
import TableSchema.Yaml.Cursor

/-!
# Texts of scalars

A scalar is written plainly, between quotes, or as a block of indented lines.  Line ends inside a
scalar are folded: a single one becomes a space, and of several the first is dropped; a block keeps
its lines unless it is marked as folded.
-/

namespace TableSchema.Yaml

open TableSchema.Text

/-! ## Plain scalars -/

/-- A character that ends a plain scalar inside flow collections. -/
def isFlowMark (c : Char) : Bool :=
  c ∈ [',', '?', '[', ']', '\x7b', '\x7d']

/-- A character before which a colon ends a plain scalar inside flow collections. -/
def isFlowBracket (c : Option Char) : Bool :=
  c ∈ [some ',', some '[', some ']', some '\x7b', some '\x7d']

/-- The characters of a plain scalar on one line up to a gap, a colon that marks a value, or a mark
of a flow collection. -/
def plainRun (flow : Bool) : List Char → List Char
  | [] => []
  | c :: cs =>
    if isGap (some c) || (c = ':' && (isGap cs.head? || (flow && isFlowBracket cs.head?))) ||
        (flow && isFlowMark c) then []
    else c :: plainRun flow cs

/-- Blank lines and the indentation after them. -/
structure BlankLines where
  /-- What the ends of the lines stand for. -/
  breaks : List Char
  /-- The number of characters. -/
  count : Nat
  /-- A separator of documents follows. -/
  separated : Bool

/-- The blank lines at the beginning of a text, up to a separator of documents. -/
def blankLines : List Char → BlankLines
  | [] => ⟨[], 0, false⟩
  | c :: cs =>
    if c = ' ' then
      let r := blankLines cs
      ⟨r.breaks, r.count + 1, r.separated⟩
    else if isBreak c then
      if startsSeparator cs then ⟨[breakText c], 1, true⟩
      else
        let r := blankLines cs
        ⟨breakText c :: r.breaks, r.count + 1, r.separated⟩
    else ⟨[], 0, false⟩

/-- What the end of a line and further ones stand for. -/
def folded (first : Char) (breaks : List Char) : List Char :=
  (if first ≠ '\n' then [first] else if breaks.isEmpty then [' '] else []) ++ breaks

/-- The gap after a part of a plain scalar. -/
structure PlainGap where
  /-- What it stands for if the scalar goes on; nothing if the scalar ends. -/
  text : List Char
  /-- It holds the end of a line. -/
  broken : Bool
  cursor : Cursor

/-- The gap that begins here. -/
def plainGap (c : Cursor) : PlainGap :=
  let spaces := c.run (· == ' ')
  let c := c.past (· == ' ')
  match c.peek with
  | none => ⟨spaces, false, c⟩
  | some d =>
    if isBreak d then
      let c := c.drop 1
      if startsSeparator c.rest then ⟨[], true, c⟩
      else
        let b := blankLines c.rest
        ⟨if b.separated then [] else folded (breakText d) b.breaks, true, c.drop b.count⟩
    else ⟨spaces, false, c⟩

/-- A scalar that was read: its text, whether a line ended in or after it, and what follows. -/
structure PlainScalar where
  text : List Char
  broken : Bool
  cursor : Cursor

/-- A plain scalar from its next part on; its lines are indented by `indent` at least. -/
def plainFrom (flow : Bool) (indent : Int) : Nat → List Char → Bool → Cursor → PlainScalar
  | 0, _, broken, c => ⟨[], broken, c⟩
  | steps + 1, gap, broken, c =>
    let part := if c.peek = some '#' then [] else plainRun flow c.rest
    if part.isEmpty then ⟨[], broken, c⟩
    else
      let g := plainGap (c.drop part.length)
      if g.text.isEmpty || g.cursor.peek = some '#' || (!flow && (g.cursor.column : Int) < indent)
      then ⟨gap ++ part, g.broken, g.cursor⟩
      else
        let r := plainFrom flow indent steps g.text g.broken g.cursor
        ⟨gap ++ part ++ r.text, r.broken, r.cursor⟩

/-- The plain scalar that begins here. -/
def plainScalar (flow : Bool) (indent : Int) (c : Cursor) : PlainScalar :=
  plainFrom flow indent (c.rest.length + 1) [] false c

/-! ## Quoted scalars -/

/-- The line ends and the indentation after the end of a line in a quoted scalar. -/
def quotedBreaks (lineStart : Bool) : List Char → Except Fault (List Char × Nat)
  | [] => .ok ([], 0)
  | c :: cs =>
    if lineStart && startsSeparator (c :: cs) then .error .malformed
    else if c = ' ' || c = '\t' then do
      let r ← quotedBreaks false cs
      return (r.1, r.2 + 1)
    else if isBreak c then do
      let r ← quotedBreaks true cs
      return (breakText c :: r.1, r.2 + 1)
    else .ok ([], 0)

/-- The characters that a backslash and a letter stand for. -/
def escapes : List (Char × Char) := [
    ('0', '\x00'), ('a', '\x07'), ('b', '\x08'), ('t', '\t'), ('\t', '\t'), ('n', '\n'),
    ('v', '\x0b'), ('f', '\x0c'), ('r', '\r'), ('e', '\x1b'), (' ', ' '), ('"', '"'),
    ('\\', '\\'), ('/', '/'), ('N', '\x85'), ('_', '\u00a0'), ('L', '\u2028'), ('P', '\u2029')]

/-- The number of hexadecimal digits after a letter that asks for a code point. -/
def codeWidth? : Char → Option Nat
  | 'x' => some 2
  | 'u' => some 4
  | 'U' => some 8
  | _ => none

/-- The character of a code point; the halves of surrogate pairs have no character of their own and
are replaced. -/
def charOfCode (n : Nat) : Except Fault Char :=
  if 0x7fffffff < n then .error .overflow
  else if 0x10ffff < n then .error (.badValue "chr() arg not in range(0x110000)")
  else if 0xd800 ≤ n && n ≤ 0xdfff then .ok '\ufffd'
  else .ok (Char.ofNat n)

/-- What a backslash with the given characters after it stands for, and the rest. -/
def escaped : List Char → Except Fault (List Char × List Char)
  | [] => .error .malformed
  | c :: cs =>
    match escapes.find? fun e => e.1 == c with
    | some e => .ok ([e.2], cs)
    | none =>
      match codeWidth? c with
      | some width =>
        let digits := cs.take width
        if digits.length = width ∧ digits.all fun d => (hexValue? d).isSome then do
          return ([← charOfCode (Number.digitsValue 16 digits)], cs.drop width)
        else .error .malformed
      | none =>
        if isBreak c then do
          let b ← quotedBreaks true cs
          return (b.1, cs.drop b.2)
        else .error .malformed

/-- What a gap in a quoted scalar stands for, and the rest. -/
def quotedGap (cs : List Char) : Except Fault (List Char × List Char) :=
  let isSpace (c : Char) : Bool := c = ' ' || c = '\t'
  match cs.dropWhile isSpace with
  | [] => .error .malformed
  | c :: rest =>
    if isBreak c then do
      let b ← quotedBreaks true rest
      return (folded (breakText c) b.1, rest.drop b.2)
    else .ok (cs.takeWhile isSpace, c :: rest)

/-- The text of a quoted scalar up to its closing quote, and the rest. -/
def quotedFrom (double : Bool) : Nat → List Char → Except Fault (List Char × List Char)
  | 0, _ | _, [] => .error .malformed
  | steps + 1, c :: cs =>
    let goOn (r : List Char × List Char) : Except Fault (List Char × List Char) := do
      let s ← quotedFrom double steps r.2
      return (r.1 ++ s.1, s.2)
    if double && c = '"' then .ok ([], cs)
    else if double && c = '\\' then escaped cs >>= goOn
    else if !double && c = '\'' then
      match cs with
      | '\'' :: cs => goOn (['\''], cs)
      | cs => .ok ([], cs)
    else if isGap (some c) then quotedGap (c :: cs) >>= goOn
    else goOn ([c], cs)

/-- The quoted scalar whose opening quote is here. -/
def quotedScalar (double : Bool) (c : Cursor) : Except Fault (List Char × Cursor) := do
  let body := c.rest.drop 1
  let r ← quotedFrom double (body.length + 1) body
  return (r.1, c.goTo r.2)

/-! ## Block scalars -/

/-- What becomes of the line ends at the end of a block. -/
inductive Chomping where
  | clip
  | strip
  | keep
deriving DecidableEq, Repr

/-- The sign that chooses the chomping. -/
def chompingOf? : Option Char → Option Chomping
  | some '+' => some .keep
  | some '-' => some .strip
  | _ => none

/-- The digit that gives an indentation; zero is refused. -/
def indentationOf? (c : Option Char) : Except Fault (Option Nat) :=
  match c.bind asciiDigit? with
  | some 0 => .error .malformed
  | d => .ok d

/-- The chomping and the indentation after the mark of a block, in either order, and what follows.
-/
def blockHeader (c : Cursor) : Except Fault (Chomping × Option Nat × Cursor) := do
  match chompingOf? c.peek with
  | some chomping =>
    let c := c.drop 1
    match ← indentationOf? c.peek with
    | some n => return (chomping, some n, c.drop 1)
    | none => return (chomping, none, c)
  | none =>
    match ← indentationOf? c.peek with
    | some n =>
      let c := c.drop 1
      match chompingOf? c.peek with
      | some chomping => return (chomping, some n, c.drop 1)
      | none => return (.clip, some n, c)
    | none => return (.clip, none, c)

/-- Blank lines before the first line of a block: the line ends, the greatest column that is
reached, and the number of characters. -/
def leadingLines (column : Nat) : List Char → List Char × Nat × Nat
  | [] => ([], 0, 0)
  | c :: cs =>
    if c = ' ' then
      let r := leadingLines (column + 1) cs
      (r.1, max (column + 1) r.2.1, r.2.2 + 1)
    else if isBreak c then
      let r := leadingLines 0 cs
      (breakText c :: r.1, r.2.1, r.2.2 + 1)
    else ([], 0, 0)

/-- Line ends and indentation up to `indent` before a line of a block: the line ends and the number
of characters. -/
def blockBreaks (indent column : Nat) : List Char → List Char × Nat
  | [] => ([], 0)
  | c :: cs =>
    if c = ' ' && column < indent then
      let r := blockBreaks indent (column + 1) cs
      (r.1, r.2 + 1)
    else if isBreak c then
      let r := blockBreaks indent 0 cs
      (breakText c :: r.1, r.2 + 1)
    else ([], 0)

/-- What the end of a line stands for, if one is here. -/
def breakHere (c : Cursor) : List Char :=
  match c.peek with
  | some d => if isBreak d then [breakText d] else []
  | none => []

/-- A space or a tab begins here. -/
def isIndented (c : Cursor) : Bool :=
  c.peek = some ' ' || c.peek = some '\t'

/-- The lines of a block that begin here after the given line ends: their text, the end of the last
line, the line ends after it, and what follows. -/
def blockLines (fold : Bool) (indent : Nat) :
    Nat → List Char → Cursor → List Char × List Char × List Char × Cursor
  | 0, breaks, c => ([], [], breaks, c)
  | steps + 1, breaks, c =>
    let line := c.run fun d => !isBreak d
    let after := c.drop line.length
    let lineBreak := breakHere after
    let next := after.pastBreak
    let b := blockBreaks indent next.column next.rest
    let next' := next.drop b.2
    let head := breaks ++ line
    if next'.column = indent && next'.peek.isSome then
      let joint :=
        if fold && lineBreak == ['\n'] && !isIndented c && !isIndented next' then
          if b.1.isEmpty then [' '] else []
        else lineBreak
      let r := blockLines fold indent steps b.1 next'
      (head ++ joint ++ r.1, r.2)
    else (head, lineBreak, b.1, next')

/-- The block scalar whose mark is here, inside a collection of the given indentation. -/
def blockScalar (fold : Bool) (parent : Int) (c : Cursor) : Except Fault (List Char × Cursor) := do
  let (chomping, increment, c) ← blockHeader (c.drop 1)
  unless isSpaceOrEnd c.peek do throw .malformed
  let c ← c.pastBlankLine
  let least := (max (parent + 1) 1).toNat
  let (indent, breaks, c) :=
    match increment with
    | none =>
      let l := leadingLines c.column c.rest
      (max least l.2.1, l.1, c.drop l.2.2)
    | some n =>
      let indent := least + n - 1
      let b := blockBreaks indent c.column c.rest
      (indent, b.1, c.drop b.2)
  let (text, lineBreak, breaks, c) :=
    if c.column = indent && c.peek.isSome then blockLines fold indent (c.rest.length + 1) breaks c
    else ([], [], breaks, c)
  let tail := match chomping with
    | .strip => []
    | .clip => lineBreak
    | .keep => lineBreak ++ breaks
  return (text ++ tail, c)

end TableSchema.Yaml
