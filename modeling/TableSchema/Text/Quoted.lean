import TableSchema.Text.Hex
import TableSchema.Text.Printable

/-!
# Quoted texts in messages

Messages show a text between quotes so that it stays on one line and every character can be told
apart.  The quote is `'`, or `"` for a text that holds the first and not the second.  The quote and
the backslash are escaped by a backslash; line breaks and tabs have letters of their own; all other
characters that are not printable are written by their code points.
-/

namespace TableSchema.Text

/-- The quote that is put around these characters. -/
def quoteFor (cs : List Char) : Char :=
  if '\'' ∈ cs ∧ '"' ∉ cs then '"' else '\''

/-- One character of a text that stands between quotes of the given kind. -/
def quotedChar (quote c : Char) : List Char :=
  if c = quote ∨ c = '\\' then ['\\', c]
  else if c = '\t' then ['\\', 't']
  else if c = '\n' then ['\\', 'n']
  else if c = '\r' then ['\\', 'r']
  else if isPrintable c then [c]
  else if c.toNat < 0x100 then '\\' :: 'x' :: hex 2 c.toNat
  else if c.toNat < 0x10000 then '\\' :: 'u' :: hex 4 c.toNat
  else '\\' :: 'U' :: hex 8 c.toNat

/-- The characters between their quotes. -/
def quotedChars (cs : List Char) : List Char :=
  quoteFor cs :: (cs.flatMap (quotedChar (quoteFor cs)) ++ [quoteFor cs])

/-- The text between its quotes. -/
def quoted (s : String) : String :=
  String.ofList (quotedChars s.toList)

/-- Bytes between quotes, marked by a leading `b`; bytes above ASCII are written by number. -/
def quotedBytes (bytes : List UInt8) : String :=
  let cs := bytes.map fun b => Char.ofNat b.toNat
  let quote := quoteFor cs
  let shown := cs.flatMap fun c =>
    if c.toNat < 128 then quotedChar quote c else '\\' :: 'x' :: hex 2 c.toNat
  String.ofList ('b' :: quote :: (shown ++ [quote]))

end TableSchema.Text
