import TableSchema.Text.CodePoints
import TableSchema.Text.Runs

/-!
# Blank characters

Blanks are the white space of Unicode together with the four ASCII separators 28 to 31.  A text is
trimmed of them at both ends, split into words at them, or collapsed so that single spaces stand
between its words.
-/

namespace TableSchema.Text

/-- The intervals of blank code points. -/
def blankRanges : List (Nat × Nat) :=
  [(9, 13), (28, 32), (133, 133), (160, 160), (5760, 5760), (8192, 8202), (8232, 8233),
    (8239, 8239), (8287, 8287), (12288, 12288)]

/-- A blank separates words. -/
def isBlank (c : Char) : Bool :=
  inRanges blankRanges c.toNat

/-- The blanks that a numeral of ASCII characters may have around it. -/
def isAsciiBlank (c : Char) : Bool :=
  c = ' ' || (9 ≤ c.toNat && c.toNat ≤ 13)

/-- The characters without those satisfying `p` at either end. -/
def trimBy (p : Char → Bool) (cs : List Char) : List Char :=
  ((cs.dropWhile p).reverse.dropWhile p).reverse

/-- The text without blanks at its ends. -/
def trim (s : String) : String :=
  String.ofList (trimBy isBlank s.toList)

/-- The words of a text: its maximal runs of characters that are no blanks. -/
def words (cs : List Char) : List (List Char) :=
  runs isBlank cs

/-- The words of a text with one space between neighbours. -/
def collapse (cs : List Char) : List Char :=
  [' '].intercalate (words cs)

end TableSchema.Text
