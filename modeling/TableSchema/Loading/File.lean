import TableSchema.Loading
import TableSchema.Yaml.Read

/-!
# Loading schema files

A schema file holds a document in YAML. What is wrong with the file or the document is reported as
an error about the file; a few faults break off the work instead: a path that no file can have, a
scalar whose value does not exist, and a text that the scripts cannot hold.
-/

namespace TableSchema

open Log

/-- A fault that breaks off the work. -/
inductive Breakdown where
  /-- The path holds a null character. -/
  | nulInPath
  /-- A scalar does not denote a value of its type. -/
  | scalar (fault : Yaml.Fault)
  /-- A script cannot be written. -/
  | script (fault : Sql.Fault)
  /-- The declarations cannot be written. -/
  | declarations (fault : TypeScript.Fault)
deriving DecidableEq, Repr

/-- Why a schema file is not loaded. -/
inductive FileLoadError where
  | reported (error : LoadError)
  | broken (breakdown : Breakdown)
deriving DecidableEq, Repr

namespace Path

/-- The path holds a null character, which no name of a file does. -/
def holdsNul (p : Path) : Bool :=
  p.text.toList.contains '\x00'

end Path

namespace SchemaFile

/-- The document in the text of a file. -/
def parse (path : Path) (text : String) : Except FileLoadError Datum :=
  match Yaml.read text with
  | .ok d => .ok d
  | .error .malformed => .error (.reported (.file path.text .malformed))
  | .error f => .error (.broken (.scalar f))

/-- The document at a path, whose text was read or could not be. -/
def document (path : Path) (content : Except AccessFault String) : Except FileLoadError Datum :=
  if path.holdsNul then .error (.broken .nulInPath)
  else match content with
    | .ok text => parse path text
    | .error f => .error (.reported (.file path.text (.unreadable path.text f)))

end SchemaFile

/-- Loads a schema file into a registry. -/
def Session.loadFile (r : Registry) (path : Path) (content : Except AccessFault String) :
    Logged (Registry × Except FileLoadError Unit) := do
  match SchemaFile.document path content with
  | .error e => return (r, .error e)
  | .ok d =>
    let (r, result) ← Session.load r path.text d
    return (r, result.mapError .reported)

end TableSchema
