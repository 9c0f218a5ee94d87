import TableSchema.Proofs.Outcomes
import TableSchema.Proofs.Reading.Entries
import TableSchema.Proofs.Reading.Objects

/-!
# Columns under keys

A mapping of columns stands for a list of columns that have its keys as their names. The list can
also be spelled out, every column by its fields and with its key as the field of the name. The two
forms differ for finished columns only: a mapping places a finished column under whatever key it
has, while a name among fields is checked. So both forms give the same table exactly if the keys of
the finished columns are fit to be names.
-/

namespace TableSchema

namespace Reading

open Datum (field? putEntry fieldEntries)

section Columns

variable {key spec : Datum} {c d : Column}

end Columns

/-! ## All columns -/

section Lists

variable {es : List (Datum × Datum)} {cs ds : List Column}

end Lists

/-! ## The table -/

section Tables

variable {fields es : List (Datum × Datum)} {columns : Datum} {t : Table}

/-- The table is what these fields say of everything but its columns. -/
structure Frames (fields : List (Datum × Datum)) (t : Table) : Prop where
  texts : ∀ e ∈ fields, e.1.text?.isSome = true
  name : required "name" fields name = .ok ⟨t.name, t.name_fits⟩
  typeName : required "type_name" fields typeName = .ok ⟨t.typeName, t.typeName_ok⟩
  primaryKeys : optional "primary_keys" fields [] (fun d => items text (keysForm d)) =
    .ok t.primaryKeys
  foreignKeys : optional "foreign_keys" fields [] (items foreignKey) = .ok t.foreignKeys
  constraints : optional "constraints" fields [] (fun d => items check (constraintsForm d)) =
    .ok t.constraints

end Tables

end Reading

end TableSchema
