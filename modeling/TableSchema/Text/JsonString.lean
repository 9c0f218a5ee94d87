import TableSchema.Text.Hex

/-!
# Strings of JSON

A JSON string in ASCII.  The quote, the backslash and the five controls with a letter are escaped by
a backslash; every other character outside the range from space to tilde is written as one or two
UTF-16 units of four hexadecimal digits.
-/

namespace TableSchema.Text

/-- The escape of one UTF-16 unit. -/
def jsonUnit (n : Nat) : List Char :=
  '\\' :: 'u' :: hex 4 n

/-- The characters that stand for `c` inside a JSON string. -/
def jsonChar (c : Char) : List Char :=
  if c = '"' ∨ c = '\\' then ['\\', c]
  else if c = '\n' then ['\\', 'n']
  else if c = '\r' then ['\\', 'r']
  else if c = '\t' then ['\\', 't']
  else if c = '\x0c' then ['\\', 'f']
  else if c = '\x08' then ['\\', 'b']
  else if 32 ≤ c.toNat ∧ c.toNat < 127 then [c]
  else if c.toNat < 0x10000 then jsonUnit c.toNat
  else
    jsonUnit (0xD800 + (c.toNat - 0x10000) / 0x400) ++
      jsonUnit (0xDC00 + (c.toNat - 0x10000) % 0x400)

/-- The text as a JSON string, quotes included. -/
def jsonString (s : String) : String :=
  String.ofList ('"' :: (s.toList.flatMap jsonChar ++ ['"']))

end TableSchema.Text
