import TableSchema.Grouping
import TableSchema.Path
import TableSchema.Text.Digit
import TableSchema.Vocabulary

/-!
# Arguments of the command line

Arguments are options and the path of the schema in any order. An option may be shortened as long
as only one name begins that way; an option of one letter may be followed by further ones or by its
value in the same argument. After two hyphens alone everything is a path.
-/

namespace TableSchema.CommandLine

/-- What is to be written. -/
inductive Artifact where
  | createScript
  | typescript
  | dropScript
deriving DecidableEq, Repr

/-- What the options ask for. -/
structure Options where
  artifact : Option Artifact := none
  output : Option Path := none
  nullableStyle : Option NullableStyle := none
  noBanner : Bool := false
  verbose : Bool := false
  jsonLogs : Bool := false
deriving DecidableEq, Repr

/-- A request: a schema file and what is to be done with it. -/
structure Request where
  schema : Path
  options : Options
deriving DecidableEq, Repr

/-- Why arguments make no request. -/
inductive Stop where
  /-- Help is asked for. -/
  | help
  /-- The arguments are not understood. -/
  | misuse
deriving DecidableEq, Repr

/-- The status that a program ends with. -/
def Stop.status : Stop → Nat
  | .help => 0
  | .misuse => 2

/-- An option. -/
inductive Flag where
  | help
  | artifact (a : Artifact)
  | output
  | nullableStyle
  | noBanner
  | verbose
  | jsonLogs
deriving DecidableEq, Repr

namespace Flag

/-- The names of options. -/
def names : List (String × Flag) := [
    ("-h", .help), ("--help", .help), ("--sql", .artifact .createScript),
    ("--typescript", .artifact .typescript), ("--ts", .artifact .typescript),
    ("--drop", .artifact .dropScript), ("--output", .output), ("-o", .output),
    ("--nullable-style", .nullableStyle), ("--no-banner", .noBanner), ("--verbose", .verbose),
    ("-v", .verbose), ("--json-logs", .jsonLogs)]

/-- The option with a name. -/
def ofName? (name : String) : Option Flag :=
  lookupFirst name names

/-- The option is followed by a value. -/
def takesValue : Flag → Bool
  | .output | .nullableStyle => true
  | _ => false

end Flag

/-! ## Words -/

/-- What a single argument is. -/
inductive Word where
  | text (s : String)
  /-- Two hyphens alone. -/
  | separator
  /-- An option, known by a single letter or not, perhaps with a text attached. -/
  | option (flag : Flag) (byLetter : Bool) (attached : Option String)
  | unknown
deriving DecidableEq, Repr

namespace Word

/-- The characters before the first equals sign and those after it. -/
def splitEquals (cs : List Char) : List Char × Option (List Char) :=
  let stem := cs.takeWhile (· != '=')
  match cs.drop stem.length with
  | [] => (stem, none)
  | _ :: rest => (stem, some rest)

/-- A name of a single letter. -/
def isLetterName (name : String) : Bool :=
  !name.startsWith "--"

/-- The option whose name is the whole argument or all of it before an equals sign. -/
def wholeName? (cs : List Char) : Option Word :=
  let named (name : List Char) (attached : Option (List Char)) : Option Word :=
    let name := String.ofList name
    (Flag.ofName? name).map fun f => .option f (isLetterName name) (attached.map String.ofList)
  let (stem, attached) := splitEquals cs
  named cs none <|> attached.bind fun a => named stem (some a)

/-- The options that an argument may stand for: those whose long names begin with it, or that whose
letter comes first in it. -/
def candidates (cs : List Char) : List Word :=
  if cs.take 2 = ['-', '-'] then
    let (stem, attached) := splitEquals cs
    (Flag.names.filter fun e => e.1.toList.take stem.length == stem).map fun e =>
      .option e.2 false (attached.map String.ofList)
  else
    (Flag.names.filter fun e => e.1.toList == cs.take 2).map fun e =>
      .option e.2 true (some (String.ofList (cs.drop 2)))

/-- A numeral with a minus sign, perhaps with a point. -/
def isNegativeNumber (cs : List Char) : Bool :=
  let body := if cs.getLast? = some '\n' then cs.dropLast else cs
  match body with
  | '-' :: digits =>
    let whole := digits.takeWhile Text.isDigit
    match digits.drop whole.length with
    | [] => !whole.isEmpty
    | '.' :: fraction => !fraction.isEmpty && fraction.all Text.isDigit
    | _ => false
  | _ => false

/-- The word of an argument that is no separator; it may stand for several options. -/
def ofArgument (s : String) : Except Stop Word :=
  let cs := s.toList
  if cs.head? ≠ some '-' then .ok (.text s)
  else match wholeName? cs with
    | some w => .ok w
    | none =>
      if cs.length = 1 then .ok (.text s)
      else match candidates cs with
        | [w] => .ok w
        | _ :: _ => .error .misuse
        | [] =>
          if isNegativeNumber cs || cs.contains ' ' then .ok (.text s) else .ok .unknown

/-- The words of arguments; after a separator all are texts. -/
def ofArguments : List String → Except Stop (List Word)
  | [] => .ok []
  | s :: ss =>
    if s = "--" then .ok (.separator :: ss.map .text)
    else do
      let w ← ofArgument s
      return w :: (← ofArguments ss)

end Word

/-! ## Requests -/

/-- The options in an argument that begins with one of a single letter: those of the letters up to
one that takes a value, for which the rest is the value. -/
def bundle (f : Flag) : List Char → Except Stop (List (Flag × Option String))
  | [] => .ok [(f, none)]
  | c :: cs =>
    if f.takesValue then .ok [(f, some (String.ofList (c :: cs)))]
    else match Flag.ofName? (String.ofList ['-', c]) with
      | none => .error .misuse
      | some g => do return (f, none) :: (← bundle g cs)

/-- The options in an argument. -/
def expand (f : Flag) (byLetter : Bool) :
    Option String → Except Stop (List (Flag × Option String))
  | none => .ok [(f, none)]
  | some v =>
    if f.takesValue then .ok [(f, some v)]
    else if byLetter && v != "" then bundle f v.toList
    else .error .misuse

/-- The value of an option; two hyphens alone are none. -/
def valueOf (v : Option String) : Option String :=
  v.filter (· != "--")

namespace Options

/-- The options after one more; of the artifacts only one may be asked for. -/
def put (o : Options) : Flag × Option String → Except Stop Options
  | (.help, _) => .error .help
  | (.artifact a, _) =>
    if o.artifact.any (· != a) then .error .misuse else .ok { o with artifact := some a }
  | (.output, v) => .ok { o with output := (valueOf v).map Path.ofText }
  | (.nullableStyle, v) =>
    match valueOf v with
    | none => .ok { o with nullableStyle := none }
    | some word =>
      match Vocabulary.ofWord? word with
      | some s => .ok { o with nullableStyle := some s }
      | none => .error .misuse
  | (.noBanner, _) => .ok { o with noBanner := true }
  | (.verbose, _) => .ok { o with verbose := true }
  | (.jsonLogs, _) => .ok { o with jsonLogs := true }

/-- The options after several more. -/
def putAll (o : Options) : List (Flag × Option String) → Except Stop Options
  | [] => .ok o
  | f :: fs => do (← o.put f).putAll fs

end Options

/-- The last option lacks its value. -/
def lacksValue (flags : List (Flag × Option String)) : Bool :=
  flags.getLast?.any fun f => f.1.takesValue && f.2.isNone

/-- The options with the value of the last one. -/
def withValue (flags : List (Flag × Option String)) (v : String) : List (Flag × Option String) :=
  flags.dropLast ++ (flags.getLast?.map fun f => (f.1, some v)).toList

/-- What was read from the arguments so far. -/
structure Draft where
  schema : Option Path := none
  options : Options := {}
  /-- Something was neither an option nor the schema. -/
  surplus : Bool := false
deriving DecidableEq, Repr

namespace Draft

/-- Reads words.  The first text is the schema; a separator may stand before or after it. -/
def read (d : Draft) : List Word → Except Stop Draft
  | [] => .ok d
  | .text s :: .separator :: ws =>
    match d.schema with
    | none => read { d with schema := some (.ofText s) } ws
    | some _ => read { d with surplus := true } ws
  | .text s :: ws =>
    match d.schema with
    | none => read { d with schema := some (.ofText s) } ws
    | some _ => read { d with surplus := true } ws
  | .separator :: ws =>
    match d.schema with
    | none => read d ws
    | some _ => read { d with surplus := true } ws
  | .unknown :: ws => read { d with surplus := true } ws
  | .option f byLetter attached :: ws => do
    let flags ← expand f byLetter attached
    if lacksValue flags then
      match ws with
      | .text v :: ws => read { d with options := ← d.options.putAll (withValue flags v) } ws
      | _ => throw .misuse
    else read { d with options := ← d.options.putAll flags } ws

/-- The request, if a schema is given and nothing is left over. -/
def request (d : Draft) : Except Stop Request :=
  match d.schema with
  | some schema => if d.surplus then .error .misuse else .ok ⟨schema, d.options⟩
  | none => .error .misuse

end Draft

/-- The request that arguments make. -/
def Request.ofArguments (arguments : List String) : Except Stop Request := do
  let words ← Word.ofArguments arguments
  (← Draft.read {} words).request

end TableSchema.CommandLine
