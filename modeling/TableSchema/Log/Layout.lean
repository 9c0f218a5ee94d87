import TableSchema.Datum.Json
import TableSchema.Log.Trace
import TableSchema.Settings
import TableSchema.Text.Case

/-!
# Layouts of log records

A record is laid out as a line for people, with the table and the operation in brackets, or as one
JSON object.
-/

namespace TableSchema.Log

/-- An exception that a record reports: its class and its text. -/
structure Failure where
  className : String
  text : String
deriving DecidableEq, Repr

/-- The line about an exception. -/
def Failure.line (f : Failure) : String :=
  let text := if f.className = "KeyError" then Text.quoted f.text else f.text
  if text = "" then f.className else f.className ++ ": " ++ text

/-- The place in a program where a record was written. -/
structure Place where
  path : String
  line : Int
  function : String
deriving DecidableEq, Repr

/-- The place with the last part of its path. -/
def Place.text (p : Place) : String :=
  let file := (p.path.toList.reverse.takeWhile (· != '/')).reverse
  String.ofList file ++ ":" ++ toString p.line ++ " (" ++ p.function ++ ")"

/-- What is laid out: a record with what was known when it was written. -/
structure Entry where
  level : Level
  logger : String
  message : String
  context : Context
  data : List (Datum × Datum) := []
  failure : Option Failure := none
  place : Option Place := none

/-- The record as an entry. -/
def Record.entry (r : Record) : Entry :=
  { level := r.level, logger := r.logger, message := r.message, context := r.context,
    data := r.data }

/-- The layouts. -/
inductive Layout where
  | human
  | structured
deriving DecidableEq, Repr

/-- The tag of a context's field, if the field holds text. -/
def tag (label : String) (value : Option String) : List String :=
  match value with
  | some v => if v = "" then [] else [label ++ "=" ++ v]
  | none => []

/-- The tags of a context in brackets. -/
def tags (c : Context) : String :=
  let ts := tag "table" c.table ++ tag "op" c.operation
  if ts.isEmpty then "" else " [" ++ ", ".intercalate ts ++ "]"

/-- The text with spaces after it up to the width. -/
def padRight (width : Nat) (s : String) : String :=
  s ++ spaces (width - s.length)

/-- The line for people without the time, a failure on the next line. -/
def Entry.humanLine (e : Entry) : String :=
  let line := padRight 8 (levelName e.level) ++ " " ++ e.logger ++ tags e.context ++ ": " ++
    e.message
  match e.failure with
  | none => line
  | some f => (if line.endsWith "\n" then line else line ++ "\n") ++ f.line

/-- The fields of the JSON object after the time; empty context and data are left out. -/
def Entry.fields (e : Entry) (includeContext : Bool) : List (Datum × Datum) :=
  let field (name : String) (d : Datum) : Datum × Datum := (Datum.text name, d)
  let context := if includeContext then e.context.entries else []
  [field "level" (Datum.text (levelName e.level)), field "logger" (Datum.text e.logger),
    field "message" (Datum.text e.message)] ++
  (if context.isEmpty then [] else [field "context" (.map context)]) ++
  (if e.data.isEmpty then [] else [field "data" (.map e.data)]) ++
  (e.failure.map fun f => field "exception" (Datum.text f.line)).toList ++
  (e.place.map fun p => field "source" (Datum.text p.text)).toList

/-- The JSON object with the time in front. -/
def Entry.structuredLine (e : Entry) (time : String) (includeContext : Bool) :
    Except JsonFault String :=
  (Datum.map ((Datum.text "timestamp", Datum.text time) :: e.fields includeContext)).json

/-- How records are written out: the least level and the layout. -/
structure Configuration where
  level : Level
  layout : Layout
deriving DecidableEq, Repr

/-- The level of a name in any case; other names give the level of results. -/
def levelOfName (name : String) : Level :=
  let upper := String.ofList (Text.upperCase name.toList)
  match levelNames.find? fun e => e.1 == upper with
  | some e => e.2
  | none => info

/-- A word that asks for the structured layout. -/
def asksForJson (word : Option String) : Bool :=
  match word with
  | some w => String.ofList (Text.lowerCase w.toList) == "json"
  | none => false

/-- The layout for a request and a word from the environment. -/
def layoutFor (json : Bool) (word : Option String) : Layout :=
  if json || asksForJson word then .structured else .human

end TableSchema.Log
