import TableSchema.Yaml.Timestamp

/-!
# Tags

The tag of a node says what the node stands for.  A plain scalar without a tag gets one from its
text: it is a truth value, a number, null or a point of the calendar if it is written like one.
-/

namespace TableSchema.Yaml

open TableSchema.Number TableSchema.Text

/-- What a node stands for. -/
inductive Tag where
  | null
  | bool
  | int
  | float
  | str
  | binary
  | timestamp
  | seq
  | map
  | set
  | omap
  | pairs
  /-- The key of entries that are merged into a mapping. -/
  | merge
  /-- The key of the scalar that a mapping stands for. -/
  | value
  /-- A tag without meaning. -/
  | unknown
deriving DecidableEq, Repr

namespace Tag

/-- The handle that two marks stand for. -/
def standardHandle : String := "tag:yaml.org,2002:"

/-- The tags that have a name. -/
def named : List (String × Tag) := [
    ("null", .null), ("bool", .bool), ("int", .int), ("float", .float), ("str", .str),
    ("binary", .binary), ("timestamp", .timestamp), ("seq", .seq), ("map", .map), ("set", .set),
    ("omap", .omap), ("pairs", .pairs), ("merge", .merge), ("value", .value)]

/-- The tag with a full name. -/
def ofName (name : String) : Tag :=
  match named.find? fun e => standardHandle ++ e.1 == name with
  | some e => e.2
  | none => .unknown

/-- Nodes with the tag are collections, whose parts are built after them. -/
def isCollection : Tag → Bool
  | .seq | .map | .set | .omap | .pairs => true
  | _ => false

/-! ## Plain scalars -/

/-- The words of truth values. -/
def truthWords : List String := [
    "yes", "Yes", "YES", "no", "No", "NO", "true", "True", "TRUE", "false", "False", "FALSE", "on",
    "On", "ON", "off", "Off", "OFF"]

/-- The parts of a text between marks. -/
def parts (mark : Char) : List Char → List (List Char)
  | [] => [[]]
  | c :: cs =>
    if c = mark then [] :: parts mark cs
    else match parts mark cs with
      | [] => [[c]]
      | p :: ps => (c :: p) :: ps

/-- A digit or an underscore. -/
def isNumeric (c : Char) : Bool :=
  c.isDigit || c = '_'

/-- Digits and underscores, a digit first. -/
def isNumeral : List Char → Bool
  | c :: cs => c.isDigit && cs.all isNumeric
  | [] => false

/-- The text is not empty and all its characters pass a test. -/
def isRun (p : Char → Bool) (cs : List Char) : Bool :=
  !cs.isEmpty && cs.all p

/-- A place of a number of base sixty. -/
def isPlace : List Char → Bool
  | [c] => c.isDigit
  | [c, d] => c.isDigit && c.toNat ≤ '5'.toNat && d.isDigit
  | _ => false

/-- A number of base sixty with several places. -/
def isSexagesimal (cs : List Char) : Bool :=
  match parts ':' cs with
  | first :: p :: ps => isNumeral first && (p :: ps).all isPlace
  | _ => false

/-- The exponent of a number, or nothing. -/
def isExponent : List Char → Bool
  | [] => true
  | e :: s :: digits => (e = 'e' || e = 'E') && (s = '+' || s = '-') && isRun Char.isDigit digits
  | _ => false

/-- A number with a point. -/
def isFloat (cs : List Char) : Bool :=
  let body := (splitSign cs).2
  let whole := body.takeWhile (· != '.')
  match body.drop whole.length with
  | [] => false
  | _ :: rest =>
    let fraction := rest.takeWhile isNumeric
    let after := rest.drop fraction.length
    (isNumeral whole && isExponent after) ||
      (isSexagesimal whole && after.isEmpty) ||
      (body.length = cs.length && whole.isEmpty && isNumeral fraction && isExponent after) ||
      (whole.isEmpty && ["inf", "Inf", "INF"].contains (String.ofList rest)) ||
      (body.length = cs.length && whole.isEmpty &&
        ["nan", "NaN", "NAN"].contains (String.ofList rest))

/-- A whole number of base two, eight, ten, sixteen or sixty. -/
def isInteger (cs : List Char) : Bool :=
  let body := (splitSign cs).2
  match body with
  | ['0'] => true
  | '0' :: 'b' :: digits => isRun (fun c => c = '0' || c = '1' || c = '_') digits
  | '0' :: 'x' :: digits => isRun (fun c => c = '_' || (hexValue? c).isSome) digits
  | '0' :: digits => isRun (fun c => c = '_' || (digitOf? 8 c).isSome) digits
  | body => isNumeral body || isSexagesimal body

/-- The text without a line feed at its end. -/
def withoutFinalBreak (cs : List Char) : List Char :=
  if cs.getLast? = some '\n' then cs.dropLast else cs

/-- The tag of a scalar that has only its text. -/
def ofPlain (text : String) : Tag :=
  let cs := withoutFinalBreak text.toList
  let s := String.ofList cs
  if text = "" then .null
  else if truthWords.contains s then .bool
  else if isFloat cs then .float
  else if isInteger cs then .int
  else if s = "<<" then .merge
  else if ["~", "null", "Null", "NULL"].contains s then .null
  else if Stamp.isImplicit cs then .timestamp
  else if s = "=" then .value
  else if ["!", "&", "*"].contains s then .unknown
  else .str

end Tag

end TableSchema.Yaml
