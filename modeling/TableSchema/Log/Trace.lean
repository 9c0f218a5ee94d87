import TableSchema.Log.Context
import TableSchema.Vocabulary

/-!
# Traces of log records

Work that logs is a function of a trace: the frames of the blocks that are running and the records
written so far.  A record keeps the context in which it was written.
-/

namespace TableSchema

/-- The parts of the program that write records. -/
inductive Component where
  | registry
  | validator
  | sqlGenerator
  | typeGenerator
  | loader
  | cli
deriving DecidableEq, Repr

instance : Vocabulary Component where
  members := [.registry, .validator, .sqlGenerator, .typeGenerator, .loader, .cli]
  word
    | .registry => "registry"
    | .validator => "validator"
    | .sqlGenerator => "sql_generator"
    | .typeGenerator => "type_generator"
    | .loader => "loader"
    | .cli => "cli"

namespace Log

/-- The level of importance of a record. -/
abbrev Level := Int

/-- The levels with names, of several names for a level the preferred one first. -/
def levelNames : List (String × Level) := [
    ("CRITICAL", 50), ("ERROR", 40), ("WARNING", 30), ("INFO", 20), ("DEBUG", 10),
    ("NOTSET", 0), ("FATAL", 50), ("WARN", 30)]

/-- The name of a level. -/
def levelName (level : Level) : String :=
  match levelNames.find? fun e => e.2 == level with
  | some e => e.1
  | none => "Level " ++ toString level

/-- The level of records that help to follow the work. -/
def debug : Level := 10

/-- The level of records about results. -/
def info : Level := 20

/-- The level of records about doubtful input. -/
def warning : Level := 30

/-- The level of records about failures. -/
def error : Level := 40

/-- A source of records: its name and the component that it belongs to. -/
structure Logger where
  name : String
  component : Option String

/-- A record. -/
structure Record where
  level : Level
  logger : String
  message : String
  data : List (Datum × Datum)
  context : Context

/-- The frames that are open and the records that were written. -/
structure Trace where
  frames : Frames := []
  records : List Record := []

instance : Inhabited Trace := ⟨{}⟩

/-- Work that may write records. -/
abbrev Logged := StateM Trace

namespace Logger

/-- The logger of a component. -/
def ofComponent (name : String) (c : Component) : Logger :=
  ⟨name, some (Vocabulary.word c)⟩

/-- The data of a record in a context: given fields, the component unless it is given, and the
context, which overrides both. -/
def data (l : Logger) (context : Context) (given : List (Datum × Datum)) :
    List (Datum × Datum) :=
  let withComponent :=
    match l.component, Datum.field? "component" given with
    | some c, none => given ++ [(Datum.text "component", Datum.text c)]
    | _, _ => given
  Datum.putAll withComponent context.entries

/-- The record of a message in a context. -/
def record (l : Logger) (context : Context) (level : Level) (message : String)
    (given : List (Datum × Datum)) : Record :=
  ⟨level, l.name, message, l.data context given, context⟩

/-- Writes a record of a message. -/
def log (l : Logger) (level : Level) (message : String) : Logged Unit :=
  modify fun t =>
    { t with records := t.records ++ [l.record t.frames.current level message []] }

end Logger

/-- The work inside a block with its own context. -/
def within {α : Type} (own : Context) (work : Logged α) : Logged α := do
  modify fun t => { t with frames := t.frames.enter own }
  let a ← work
  modify fun t => { t with frames := t.frames.leave }
  return a

/-- A logger writes records and leaves the frames alone. -/
@[simp] theorem frames_log (l : Logger) (level : Level) (message : String) (t : Trace) :
    (l.log level message t).2.frames = t.frames := rfl

end Log

end TableSchema
