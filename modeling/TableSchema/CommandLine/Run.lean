import TableSchema.CommandLine.Arguments
import TableSchema.Environment
import TableSchema.Loading.File
import TableSchema.Log.Layout

/-!
# Runs of the command line

A run loads the schema file of a request and writes what is asked for to the standard output or to a
file.  What is wrong with the settings, the schema or the output is logged, and the run ends with
status 1.
-/

namespace TableSchema

open Log

/-- The source of the records about runs. -/
def Loggers.commandLine : Logger := .ofComponent "pgschema.cli" .cli

namespace CommandLine

/-- The status of a run that did what it was asked for. -/
def success : Nat := 0

/-- The status of a run that reported a failure. -/
def failure : Nat := 1

/-- Settings with what the options override. -/
def Options.override (o : Options) (s : Settings) : Settings :=
  { s with
    nullableStyle := (o.nullableStyle.map .style).getD s.nullableStyle
    includeBanner := s.includeBanner && !o.noBanner }

/-- How the log of a run is written. -/
def Options.log (o : Options) (env : Environment) : Configuration where
  level := levelOfName (if o.verbose then "DEBUG" else env.log.level)
  layout := layoutFor (o.jsonLogs || env.log.jsonOutput) (env.get? "LOG_FORMAT")

/-- Generates what is asked for, by default the create script. -/
def Options.generate (o : Options) (r : Registry) : Logged (Except GenerationError String) :=
  match o.artifact with
  | some .typescript => Session.generateTypescript r
  | some .dropScript => Session.generateDrop r
  | some .createScript | none => Session.generateSql r

/-- Reports a failure. -/
def report (message : String) : Logged Unit :=
  Loggers.commandLine.log error message

/-- The text that is generated from a registry, or nothing if its failure was reported. -/
def generated (o : Options) (r : Registry) : Logged (Except Breakdown (Option String)) := do
  match ← o.generate r with
  | .ok text => return .ok (some text)
  | .error (.invalid issues) =>
    report (RegistrationError.invalid issues).message
    return .ok none
  | .error (.sql f) => return .error (.script f)
  | .error (.typescript f) => return .error (.declarations f)

/-- The text that a request asks for, whose schema file was read or could not be; or nothing if its
failure was reported. -/
def render (env : Environment) (q : Request) (content : Except AccessFault String) :
    Logged (Except Breakdown (Option String)) := do
  match env.defaults with
  | .error f =>
    report ("Invalid configuration: " ++ f.message)
    return .ok none
  | .ok defaults =>
    let settings := q.options.override defaults.generator
    match ← Session.loadFile { settings := settings } q.schema content with
    | (_, .error (.broken b)) => return .error b
    | (_, .error (.reported e)) =>
      report e.message
      return .ok none
    | (r, .ok ()) => generated q.options r

/-- Reports how writing the output ended. -/
def written (path : Path) (result : Except AccessFault Unit) : Logged Nat := do
  match result with
  | .ok () =>
    Loggers.commandLine.log info ("Wrote " ++ path.text)
    return success
  | .error f =>
    report ("Cannot write " ++ path.text ++ ": " ++ f.message path.text)
    return failure

/-- What a run leaves behind. -/
structure Outcome where
  status : Nat
  output : String
  files : Files

/-- Writes the text of a run where it is wanted. -/
def deliver (q : Request) (files : Files) (text : String) : Logged (Except Breakdown Outcome) := do
  match q.options.output with
  | none => return .ok ⟨success, text, files⟩
  | some path =>
    if path.holdsNul then return .error .nulInPath
    else
      let result := files.write path text
      let status ← written path (result.map fun _ => ())
      return .ok ⟨status, "", match result with | .ok fs => fs | .error _ => files⟩

/-- Carries out a request in an environment. -/
def run (env : Environment) (files : Files) (q : Request) : Logged (Except Breakdown Outcome) := do
  match ← render env q (files.read q.schema) with
  | .error b => return .error b
  | .ok none => return .ok ⟨failure, "", files⟩
  | .ok (some text) => deliver q files text

/-- The records that a run writes out. -/
def shownRecords (c : Configuration) (records : List Record) : List Record :=
  records.filter fun r => c.level ≤ r.level

end CommandLine

end TableSchema
