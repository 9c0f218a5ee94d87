import TableSchema.Grouping
import TableSchema.Number.IntegerText
import TableSchema.Settings
import TableSchema.Text.Case
import TableSchema.Text.Quoted

/-!
# Defaults from the environment

Settings that are not given explicitly come from variables of the environment. They are read when
they are first asked for and then kept until they are forgotten; a reading that fails is not kept.
-/

namespace TableSchema

open TableSchema.Text

/-- The variables of the environment with their values. -/
abbrev Environment := List (String × String)

namespace Environment

/-- The value of a variable. -/
def get? (env : Environment) (name : String) : Option String :=
  lookupFirst name env

/-- The environment with a variable set. -/
def set (env : Environment) (name value : String) : Environment :=
  upsert name value env

/-- The environment without a variable. -/
def unset (env : Environment) (name : String) : Environment :=
  env.filter fun e => !(e.1 == name)

end Environment

/-- Why the environment gives no settings. -/
inductive ConfigurationFault where
  | notInteger (name value : String)
  | unknownStyle (value : String)
  | negativeIndent
deriving DecidableEq, Repr

/-- The message about an environment that gives no settings. -/
def ConfigurationFault.message : ConfigurationFault → String
  | .notInteger name value => name ++ " must be an integer, got " ++ quoted value
  | .unknownStyle value => quoted value ++ " is not a valid NullableStyle"
  | .negativeIndent => "Indent widths must be non-negative"

/-- The defaults of the log: the name of the least level and whether records are JSON. -/
structure LogDefaults where
  level : String := "INFO"
  jsonOutput : Bool := false
deriving DecidableEq, Repr

/-- The defaults of the generators and of the log. -/
structure Defaults where
  generator : Settings
  log : LogDefaults
deriving DecidableEq, Repr

namespace Environment

/-- The text in lower case. -/
def lowered (s : String) : String :=
  String.ofList (lowerCase s.toList)

/-- The flag of a variable: four words in any case and spacing are true, all others false. -/
def flag (env : Environment) (name : String) (default : Bool) : Bool :=
  match env.get? name with
  | none => default
  | some v => ["1", "true", "yes", "on"].contains (lowered (trim v))

/-- The integer of a variable. -/
def integer (env : Environment) (name : String) (default : Int) : Except ConfigurationFault Int :=
  match env.get? name with
  | none => .ok default
  | some v =>
    match Number.readInteger 10 v.toList with
    | .ok n => .ok n
    | .error _ => .error (.notInteger name v)

/-- The nullable style of a variable. -/
def style (env : Environment) (name : String) (default : NullableStyle) :
    Except ConfigurationFault NullableStyle :=
  match env.get? name with
  | none => .ok default
  | some v =>
    match Vocabulary.ofWord? (lowered v) with
    | some s => .ok s
    | none => .error (.unknownStyle (lowered v))

/-- The settings of the generators. -/
def settings (env : Environment) : Except ConfigurationFault Settings := do
  let sqlIndent ← env.integer "PGSCHEMA_SQL_INDENT" 2
  let typescriptIndent ← env.integer "PGSCHEMA_TS_INDENT" 2
  let style ← env.style "PGSCHEMA_NULLABLE_STYLE" .optional
  if sqlIndent < 0 ∨ typescriptIndent < 0 then throw .negativeIndent
  return {
    sqlIndent := sqlIndent.toNat
    typescriptIndent := typescriptIndent.toNat
    includeBanner := env.flag "PGSCHEMA_BANNER" true
    quoteIdentifiers := env.flag "PGSCHEMA_QUOTE_IDENTIFIERS" false
    guardEnumTypes := env.flag "PGSCHEMA_GUARD_ENUMS" false
    nullableStyle := .style style }

/-- The defaults of the log. -/
def log (env : Environment) : LogDefaults where
  level := String.ofList (upperCase ((env.get? "LOG_LEVEL").getD "INFO").toList)
  jsonOutput := lowered ((env.get? "LOG_FORMAT").getD "") == "json"

/-- All defaults. -/
def defaults (env : Environment) : Except ConfigurationFault Defaults := do
  return ⟨← env.settings, env.log⟩

end Environment

/-- Defaults with the number of the reading that they come from, by which two equal readings can be
told apart. -/
structure Snapshot where
  serial : Nat
  defaults : Defaults
deriving DecidableEq, Repr

/-- The defaults that are kept and the number of readings so far. -/
structure DefaultsCache where
  kept : Option Snapshot := none
  readings : Nat := 0
deriving DecidableEq, Repr

namespace DefaultsCache

/-- Reads the environment afresh and keeps nothing. -/
def read (env : Environment) (c : DefaultsCache) :
    Except ConfigurationFault Snapshot × DefaultsCache :=
  match env.defaults with
  | .ok d => (.ok ⟨c.readings, d⟩, { c with readings := c.readings + 1 })
  | .error f => (.error f, c)

/-- The defaults that are kept, else a reading, which is kept if it does not fail. -/
def get (env : Environment) (c : DefaultsCache) :
    Except ConfigurationFault Snapshot × DefaultsCache :=
  match c.kept with
  | some s => (.ok s, c)
  | none =>
    match c.read env with
    | (.ok s, c) => (.ok s, { c with kept := some s })
    | (.error f, c) => (.error f, c)

/-- Forgets the defaults that are kept. -/
def reset (c : DefaultsCache) : DefaultsCache :=
  { c with kept := none }

@[simp] theorem kept_reset (c : DefaultsCache) : c.reset.kept = none := rfl

/-- A fresh reading leaves alone what is kept. -/
@[simp] theorem kept_read (env : Environment) (c : DefaultsCache) :
    (c.read env).2.kept = c.kept := by
  unfold read
  split <;> rfl

end DefaultsCache

end TableSchema
