import TableSchema.Calendar
import TableSchema.Number.Shortest
import TableSchema.Number.IntegerText
import TableSchema.Text.Quoted

/-!
# Atoms

An atom is a value without parts: null, a truth value, a number, a text, bytes, or a point of the
calendar.  Atoms have two texts: the plain one, which stands alone in a message, and the shown one,
which stands inside collections and marks texts by quotes.
-/

namespace TableSchema

open TableSchema.Calendar TableSchema.Number

/-- A value without parts. -/
inductive Atom where
  | null
  | bool (b : Bool)
  | int (n : Int)
  | float (x : Binary64)
  | text (s : String)
  | bytes (bs : List UInt8)
  | date (d : Date)
  | moment (m : Moment)
deriving DecidableEq, Repr

namespace Atom

instance : Inhabited Atom := ⟨.null⟩

/-- The number that the atom is for comparisons; truth values count as zero and one. -/
inductive Quantity where
  | whole (n : Int)
  | float (x : Binary64)

/-- The atom as a quantity. -/
def quantity? : Atom → Option Quantity
  | .bool b => some (.whole (if b then 1 else 0))
  | .int n => some (.whole n)
  | .float x => some (.float x)
  | _ => none

/-- Quantities are the same if their values are. -/
def Quantity.same : Quantity → Quantity → Bool
  | .whole m, .whole n => m == n
  | .whole m, .float x => x.toInt? == some m
  | .float x, .whole n => x.toInt? == some n
  | .float x, .float y => x.same y

/-- Numbers and truth values of one value are the same, also across kinds; other atoms are the
same if they are equal, moments if they denote one instant. -/
def same (a b : Atom) : Bool :=
  match a.quantity?, b.quantity? with
  | some p, some q => p.same q
  | none, none =>
    match a, b with
    | .moment m, .moment n => m.same n
    | a, b => a == b
  | _, _ => false

/-- Null, false, zero and the empty text and bytes count as false. -/
def truthy : Atom → Bool
  | .null => false
  | .bool b => b
  | .int n => n != 0
  | .float x => !x.isZero
  | .text s => s != ""
  | .bytes bs => !bs.isEmpty
  | .date _ | .moment _ => true

/-- The atom inside a collection; an integer may be too long to be written. -/
def shown : Atom → Except NumeralFault String
  | .null => .ok "None"
  | .bool b => .ok (if b then "True" else "False")
  | .int n => integerText n
  | .float x => .ok x.text
  | .text s => .ok (Text.quoted s)
  | .bytes bs => .ok (Text.quotedBytes bs)
  | .date d => .ok d.shown
  | .moment m => .ok m.shown

/-- The atom alone. -/
def plain : Atom → Except NumeralFault String
  | .text s => .ok s
  | .date d => .ok d.text
  | .moment m => .ok m.text
  | a => a.shown

/-- The word that messages use for the kind of the atom. -/
def typeWord : Atom → String
  | .null => "NoneType"
  | .bool _ => "bool"
  | .int _ => "int"
  | .float _ => "float"
  | .text _ => "str"
  | .bytes _ => "bytes"
  | .date _ => "datetime.date"
  | .moment _ => "datetime.datetime"

@[simp] theorem plain_text (s : String) : (Atom.text s).plain = .ok s := rfl

end Atom

end TableSchema
