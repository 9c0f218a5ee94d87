import Std.Time.DateTime.Timestamp
import TableSchema.CommandLine.Run

/-!
# The program

Reads the arguments, the environment and the schema file, carries out the request, and writes the
text and the log.
-/

namespace TableSchema.Program

open CommandLine

/-- How the program is used. -/
def usage : String :=
  "usage: pgschema [-h] [--sql | --typescript | --drop] [--output OUTPUT]\n" ++
  "                [--nullable-style \x7boptional,union\x7d] [--no-banner] [--verbose]\n" ++
  "                [--json-logs] schema\n"

/-- The variables that the program looks at. -/
def variableNames : List String := [
    "PGSCHEMA_SQL_INDENT", "PGSCHEMA_TS_INDENT", "PGSCHEMA_BANNER", "PGSCHEMA_QUOTE_IDENTIFIERS",
    "PGSCHEMA_GUARD_ENUMS", "PGSCHEMA_NULLABLE_STYLE", "LOG_LEVEL", "LOG_FORMAT"]

/-- The environment of the program. -/
def environment : IO Environment :=
  variableNames.filterMapM fun name => do return (← IO.getEnv name).map fun value => (name, value)

/-- The fault that an error of the system reports; its number may come negated. -/
def accessFault? (e : IO.Error) : Option AccessFault :=
  let numbered (code : UInt32) : Option AccessFault :=
    [AccessFault.notFound, .notDirectory, .isDirectory, .nameTooLong].find? fun f =>
      f.number == code.toNat || f.number == (-code).toNat
  match e with
  | .noFileOrDirectory _ code _ | .inappropriateType _ code _ | .invalidArgument _ code _ =>
    numbered code
  | _ => none

/-- An action on a file with its fault; other errors end the program. -/
def attempt {α : Type} (action : IO α) : IO (Except AccessFault α) := do
  try
    return .ok (← action)
  catch e =>
    match accessFault? e with
    | some f => return .error f
    | none => throw e

/-- The text of a file. -/
def contentOf (p : Path) : IO (Except AccessFault String) :=
  if p.holdsNul then return .error .notFound else attempt (IO.FS.readFile p.text)

/-- The line of a record, with the present time in front or inside. -/
def line (layout : Log.Layout) (r : Log.Record) : IO String := do
  let now ← Std.Time.Timestamp.now
  let stamp := Calendar.stampText now.toSecondsSinceUnixEpoch.val
  match layout with
  | .human => return stamp ++ " " ++ r.entry.humanLine
  | .structured =>
    match r.entry.structuredLine stamp true with
    | .ok text => return text
    | .error _ => return r.entry.humanLine

/-- Writes the records of a trace that are important enough to the standard error. -/
def writeLog (c : Log.Configuration) (trace : Log.Trace) : IO Unit := do
  for r in shownRecords c trace.records do
    IO.eprintln (← line c.layout r)

/-- What a fault that breaks off the work says. -/
def breakdownText : Breakdown → String
  | .nulInPath => "a path holds a null character"
  | .scalar (.badValue m) => m
  | .scalar _ => "a scalar does not denote a value of its type"
  | .script .nulInLiteral => Sql.nulMessage
  | .script _ | .declarations _ => "the text cannot be written"

/-- Writes a text where it is wanted, and what the log says about it. -/
def deliver (q : Request) (text : String) : IO (UInt32 × Log.Trace) := do
  match q.options.output with
  | none =>
    IO.print text
    return (0, {})
  | some path =>
    if path.holdsNul then throw (.userError (breakdownText .nulInPath))
    let result ← attempt (IO.FS.writeFile path.text text)
    let (status, trace) := (written path result).run {}
    return (status.toUInt32, trace)

/-- Carries out a request. -/
def carryOut (q : Request) : IO UInt32 := do
  let env ← environment
  let configuration := q.options.log env
  let (result, trace) := (render env q (← contentOf q.schema)).run {}
  writeLog configuration trace
  match result with
  | .error b =>
    IO.eprintln (breakdownText b)
    return 1
  | .ok none => return 1
  | .ok (some text) =>
    let (status, trace) ← deliver q text
    writeLog configuration trace
    return status

end TableSchema.Program

open TableSchema in
/-- Carries out the request that the arguments make. -/
def main (arguments : List String) : IO UInt32 := do
  match CommandLine.Request.ofArguments arguments with
  | .ok q => Program.carryOut q
  | .error stop =>
    match stop with
    | .help => IO.print Program.usage
    | .misuse => IO.eprint Program.usage
    return stop.status.toUInt32
