import Mathlib.Data.List.Induction
import TableSchema.Sql.Script

/-!
# Running scripts on a catalogue

A catalogue holds the extensions, the enumeration types and the tables of a database under their
declared names. A statement runs if its objects are there or absent as it needs them: a table needs
the types of its columns and the targets of its foreign keys before it, and nothing is dropped that
a table still refers to.

## Implementation notes

Statements are run in the strict reading: creating what exists and dropping what does not exist
fails, although the text of most statements says `IF NOT EXISTS` or `IF EXISTS`.
-/

namespace TableSchema.Sql

/-- What a catalogue holds, by kind and declared name. -/
inductive Object where
  | extension (name : String)
  | enumeration (name : String)
  | table (name : String)
deriving DecidableEq, Repr

namespace Statement

/-- The object that a statement creates. -/
def created? : Statement → Option Object
  | .createExtension n => some (.extension n)
  | .createEnum e => some (.enumeration e.name)
  | .createTable t => some (.table t.name)
  | .dropTable _ | .dropType _ | .dropExtension _ => none

/-- The object that a statement drops. -/
def dropped? : Statement → Option Object
  | .createExtension _ | .createEnum _ | .createTable _ => none
  | .dropTable n => some (.table n)
  | .dropType n => some (.enumeration n)
  | .dropExtension n => some (.extension n)

end Statement

/-- The type of a column as a statement writes it. -/
def renderedType (p : IdentifierPolicy) (v : ValueType) : Except Fault String :=
  (typeName p v).text

/-- The extensions, enumeration types and tables of a database. -/
structure Catalogue where
  extensions : List String := []
  types : List String := []
  tables : List Table := []
deriving DecidableEq, Repr

namespace Catalogue

/-- The objects of a catalogue. -/
def objects (c : Catalogue) : List Object :=
  c.extensions.map .extension ++ c.types.map .enumeration ++ c.tables.map fun t => .table t.name

/-- The target of a foreign key is there with all columns that the key refers to, each of the type
of its local column. -/
def HasTarget (p : IdentifierPolicy) (c : Catalogue) (t : Table) (k : ForeignKey) : Prop :=
  ∃ target ∈ c.tables, target.name = k.table ∧
    ∀ pair ∈ k.columns, ∃ own ∈ t.columns, own.name = .text pair.localName ∧
      ∃ foreign ∈ target.columns, foreign.name = .text pair.foreignName ∧
        renderedType p foreign.type = renderedType p own.type

/-- What a statement needs of the catalogue. -/
def Admits (p : IdentifierPolicy) (c : Catalogue) : Statement → Prop
  | .createExtension n => n ∉ c.extensions
  | .createEnum e => e.name ∉ c.types
  | .createTable t =>
    t.name ∉ c.tables.map (·.name) ∧ (∀ e ∈ t.columnEnums, e.name ∈ c.types) ∧
      ∀ k ∈ t.foreignKeys, c.HasTarget p t k
  | .dropTable n =>
    n ∈ c.tables.map (·.name) ∧ ∀ u ∈ c.tables, u.name ≠ n → ∀ k ∈ u.foreignKeys, k.table ≠ n
  | .dropType n => n ∈ c.types ∧ ∀ t ∈ c.tables, ∀ e ∈ t.columnEnums, e.name ≠ n
  | .dropExtension n => n ∈ c.extensions

instance (p : IdentifierPolicy) (c : Catalogue) (t : Table) (k : ForeignKey) :
    Decidable (c.HasTarget p t k) :=
  inferInstanceAs (Decidable (∃ target ∈ c.tables, _))

instance (p : IdentifierPolicy) (c : Catalogue) : (st : Statement) → Decidable (c.Admits p st)
  | .createExtension _ | .createEnum _ => inferInstanceAs (Decidable (_ ∉ _))
  | .createTable _ | .dropTable _ | .dropType _ => inferInstanceAs (Decidable (_ ∧ _))
  | .dropExtension _ => inferInstanceAs (Decidable (_ ∈ _))

/-- What a statement makes of the catalogue. -/
def apply (c : Catalogue) : Statement → Catalogue
  | .createExtension n => { c with extensions := c.extensions ++ [n] }
  | .createEnum e => { c with types := c.types ++ [e.name] }
  | .createTable t => { c with tables := c.tables ++ [t] }
  | .dropTable n => { c with tables := c.tables.filter (·.name != n) }
  | .dropType n => { c with types := c.types.filter (· != n) }
  | .dropExtension n => { c with extensions := c.extensions.filter (· != n) }

/-- Runs a statement, which fails if the catalogue lacks what it needs. -/
def execute (p : IdentifierPolicy) (c : Catalogue) (st : Statement) : Option Catalogue :=
  if c.Admits p st then some (c.apply st) else none

/-- Runs statements one after the other up to the first that fails. -/
def run (p : IdentifierPolicy) (c : Catalogue) : List Statement → Option Catalogue
  | [] => some c
  | st :: sts => (c.execute p st).bind fun c => run p c sts

variable {p : IdentifierPolicy} {c c' : Catalogue}

theorem execute_eq_some_iff {st : Statement} :
    c.execute p st = some c' ↔ c.Admits p st ∧ c.apply st = c' := by
  simp [execute]

theorem run_append (sts sts' : List Statement) :
    c.run p (sts ++ sts') = (c.run p sts).bind fun c => c.run p sts' := by
  induction sts generalizing c with
  | nil => rfl
  | cons st sts ih =>
      rw [List.cons_append, run, run]
      cases c.execute p st with
      | none => rfl
      | some d => exact ih

theorem run_append_of_eq_some {sts sts' : List Statement} (h : c.run p sts = some c') :
    c.run p (sts ++ sts') = c'.run p sts' := by
  rw [run_append, h, Option.bind_some]

section Steps

variable {α : Type} {statement : α → Statement} (state : List α → Catalogue)

/-- A run that builds up: every statement adds its element to the elements before. -/
theorem run_map_of_concat (as : List α)
    (h : ∀ earlier a later, as = earlier ++ a :: later →
      (state earlier).execute p (statement a) = some (state (earlier ++ [a]))) :
    (state []).run p (as.map statement) = some (state as) := by
  induction as using List.reverseRecOn with
  | nil => rfl
  | append_singleton as a ih =>
      have hbefore : (state []).run p (as.map statement) = some (state as) := by
        refine ih fun earlier b later hsplit => h earlier b (later ++ [a]) ?_
        rw [hsplit, List.append_assoc, List.cons_append]
      rw [List.map_append, run_append_of_eq_some hbefore, List.map_singleton, run, h as a [] rfl]
      rfl

/-- A run that takes down: every statement removes its element from the elements that are left. -/
theorem run_map_of_cons (as : List α)
    (h : ∀ gone a left, as = gone ++ a :: left →
      (state (a :: left)).execute p (statement a) = some (state left)) :
    (state as).run p (as.map statement) = some (state []) := by
  induction as with
  | nil => rfl
  | cons a as ih =>
      rw [List.map_cons, run, h [] a as rfl, Option.bind_some]
      refine ih fun gone b left hsplit => h (a :: gone) b left ?_
      rw [hsplit, List.cons_append]

end Steps

end Catalogue

end TableSchema.Sql
