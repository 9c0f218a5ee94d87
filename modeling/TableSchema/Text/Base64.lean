/-!
# Bytes written with 64 characters

Four characters of six bits each stand for three bytes.  The reader is lenient: it skips characters
that stand for nothing, and padding that completes a group ends the text.
-/

namespace TableSchema.Text

/-- The six bits that a character stands for. -/
def sextet? (c : Char) : Option Nat :=
  if 'A' ≤ c ∧ c ≤ 'Z' then some (c.toNat - 'A'.toNat)
  else if 'a' ≤ c ∧ c ≤ 'z' then some (c.toNat - 'a'.toNat + 26)
  else if '0' ≤ c ∧ c ≤ '9' then some (c.toNat - '0'.toNat + 52)
  else if c = '+' then some 62
  else if c = '/' then some 63
  else none

/-- The whole bytes in a group of sextets; bits that are left over are dropped. -/
def groupBytes : List Nat → List UInt8
  | [a, b] => [UInt8.ofNat (4 * a + b / 16)]
  | [a, b, c] => [UInt8.ofNat (4 * a + b / 16), UInt8.ofNat (16 * (b % 16) + c / 4)]
  | [a, b, c, d] =>
    [UInt8.ofNat (4 * a + b / 16), UInt8.ofNat (16 * (b % 16) + c / 4),
      UInt8.ofNat (64 * (c % 4) + d)]
  | _ => []

/-- The bytes of a text after the sextets of a group that was begun and the padding after them.  A
group that is neither full nor completed by padding is refused. -/
def base64From (group : List Nat) (padding : Nat) : List Char → Option (List UInt8)
  | [] => if group.isEmpty then some [] else none
  | c :: cs =>
    if c = '=' then
      if 2 ≤ group.length then
        if 4 ≤ group.length + padding + 1 then some (groupBytes group)
        else base64From group (padding + 1) cs
      else base64From group padding cs
    else match sextet? c with
      | none => base64From group padding cs
      | some s =>
        if group.length = 3 then do
          return groupBytes (group ++ [s]) ++ (← base64From [] 0 cs)
        else base64From (group ++ [s]) 0 cs

/-- The bytes that a text stands for. -/
def readBase64 (cs : List Char) : Option (List UInt8) :=
  base64From [] 0 cs

end TableSchema.Text
