import TableSchema.Document
import TableSchema.Files
import TableSchema.Registry.Session

/-!
# Loading documents into a registry

A document is read as a whole before anything is registered: a fault in it leaves the registry as it
was.  Then its extensions are added, and its tables up to the first that is refused.
-/

namespace TableSchema

open Log

/-- What is wrong with a schema file. -/
inductive FileFault where
  | unreadable (path : String) (fault : AccessFault)
  | malformed
  | document (fault : DocumentFault)
deriving DecidableEq, Repr

/-- The message about a schema file. -/
def FileFault.message : FileFault → String
  | .unreadable path f => "cannot read file: " ++ f.message path
  | .malformed => "invalid YAML"
  | .document f => f.message

/-- Why a document is not loaded, or not as a whole. -/
inductive LoadError where
  | file (source : String) (fault : FileFault)
  | registration (error : RegistrationError)
deriving DecidableEq, Repr

/-- The message about a document that is not loaded. -/
def LoadError.message : LoadError → String
  | .file source f => source ++ ": " ++ f.message
  | .registration e => e.message

/-- The registry with the declarations of a document. -/
def Registry.load (r : Registry) (source : String) (d : Datum) :
    Registry × Except LoadError Unit :=
  match Document.read d with
  | .error f => (r, .error (.file source (.document f)))
  | .ok declared =>
    let result := (declared.extensions.foldl Registry.addExtension r).acceptAll declared.tables
    (result.1, result.2.mapError .registration)

namespace Loggers

/-- The source of the records about loading. -/
def loader : Logger := .ofComponent "pgschema.loader" .loader

end Loggers

namespace Session

/-- Adds declarations to a registry. -/
def declare (r : Registry) (d : Declarations) :
    Logged (Registry × Except RegistrationError Unit) := do
  addTables (← addExtensions r d.extensions) d.tables

/-- Loads a document into a registry. -/
def load (r : Registry) (source : String) (d : Datum) :
    Logged (Registry × Except LoadError Unit) := do
  match Document.read d with
  | .error f => return (r, .error (.file source (.document f)))
  | .ok declared =>
    let (r, result) ← within
      { operation := some "load_schema", extra := [(Datum.text "source", Datum.text source)] }
      (declare r declared)
    match result with
    | .error e => return (r, .error (.registration e))
    | .ok () =>
      Loggers.loader.log info
        ("Loaded " ++ toString declared.tables.length ++ " tables from " ++ source)
      return (r, .ok ())

end Session

end TableSchema
