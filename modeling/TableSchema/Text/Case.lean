import TableSchema.Text.Case.Table
import TableSchema.Text.CodePoints

/-!
# Letter case

Upper and lower case of a text by the full mappings of Unicode.  ASCII letters are mapped by the
core functions on `Char`; the tables are asked for all others.  A capital sigma at the end of a
word becomes the final small sigma.
-/

namespace TableSchema.Text

namespace Case

/-- The partner of a code point in a table of runs. -/
def partner? (table : List (Nat × Nat × Nat × Int)) (n : Nat) : Option Nat :=
  (table.find? fun r => r.1 ≤ n && n ≤ r.2.1 && (n - r.1) % r.2.2.1 == 0).map
    fun r => (n + r.2.2.2 : Int).toNat

/-- The characters that a code point above ASCII is mapped to. -/
def mapped (table : List (Nat × Nat × Nat × Int)) (special : List (Nat × List Nat)) (c : Char) :
    List Char :=
  match special.find? fun e => e.1 == c.toNat with
  | some e => e.2.map Char.ofNat
  | none => [((partner? table c.toNat).map Char.ofNat).getD c]

/-- The upper case of a character. -/
def upper (c : Char) : List Char :=
  if c.toNat < 128 then [c.toUpper] else mapped upperRuns upperSpecial c

/-- The lower case of a character outside the context of a final sigma. -/
def lower (c : Char) : List Char :=
  if c.toNat < 128 then [c.toLower] else mapped lowerRuns lowerSpecial c

/-- The first character that is not skipped is a cased letter. -/
def casedNext (cs : List Char) : Bool :=
  match cs.dropWhile fun c => inRanges ignorableRanges c.toNat with
  | [] => false
  | c :: _ => inRanges casedRanges c.toNat

/-- Lower case of a text whose earlier characters are `before`, the nearest first. -/
def lowerFrom (before : List Char) : List Char → List Char
  | [] => []
  | c :: cs =>
    (if c = 'Σ' then
      (if casedNext before && !casedNext cs then ['ς'] else ['σ'])
    else lower c) ++ lowerFrom (c :: before) cs

end Case

/-- The text in upper case. -/
def upperCase (cs : List Char) : List Char :=
  cs.flatMap Case.upper

/-- The text in lower case. -/
def lowerCase (cs : List Char) : List Char :=
  Case.lowerFrom [] cs

/-- Each ASCII letter in lower case, all other characters unchanged. -/
def lowerAscii (cs : List Char) : List Char :=
  cs.map Char.toLower

@[simp] theorem lowerAscii_nil : lowerAscii [] = [] := rfl

@[simp] theorem lowerAscii_cons (c : Char) (cs : List Char) :
    lowerAscii (c :: cs) = c.toLower :: lowerAscii cs := rfl

@[simp] theorem lowerAscii_append (as bs : List Char) :
    lowerAscii (as ++ bs) = lowerAscii as ++ lowerAscii bs :=
  List.map_append

end TableSchema.Text
