import TableSchema.Proofs.Reading.Outcomes

/-!
# Objects and the readings of their fields

An object is read from a mapping if and only if each of its fields is read from the mapping as it
stands in the object.
-/

namespace TableSchema.Reading

open Datum (field?)

variable {entries : List (Datum × Datum)}

theorem columnOfFields_eq_ok_iff {c : Column} :
    columnOfFields entries = .ok c ↔
      ∃ n, c.name = .text n.1 ∧ required "name" entries name = .ok n ∧
        required "type" entries valueType = .ok c.type ∧
        optional "nullable" entries false flag = .ok c.nullable ∧
        optional "default" entries none defaultField = .ok c.default := by
  simp only [columnOfFields, seq_eq_ok_iff, fmap_eq_ok_iff]
  constructor
  · rintro ⟨_, d, ⟨_, b, ⟨_, t, ⟨n, hn, rfl⟩, ht, rfl⟩, hb, rfl⟩, hd, rfl⟩
    exact ⟨n, rfl, hn, ht, hb, hd⟩
  · obtain ⟨name, t, b, d⟩ := c
    rintro ⟨n, rfl, hn, ht, hb, hd⟩
    exact ⟨_, d, ⟨_, b, ⟨_, t, ⟨n, hn, rfl⟩, ht, rfl⟩, hb, rfl⟩, hd, rfl⟩

theorem foreignKeyOfFields_eq_ok_iff {k : ForeignKey} :
    foreignKeyOfFields entries = .ok k ↔
      required "table" entries nonempty = .ok ⟨k.table, k.table_ne_empty⟩ ∧
        required "columns" entries references = .ok ⟨k.columns, k.columns_ne_nil⟩ ∧
        optional "on_delete" entries none action = .ok k.onDelete ∧
        optional "on_update" entries none action = .ok k.onUpdate := by
  simp only [foreignKeyOfFields, seq_eq_ok_iff, fmap_eq_ok_iff]
  constructor
  · rintro ⟨_, u, ⟨_, d, ⟨_, cs, ⟨t, ht, rfl⟩, hcs, rfl⟩, hd, rfl⟩, hu, rfl⟩
    exact ⟨ht, hcs, hd, hu⟩
  · rintro ⟨ht, hcs, hd, hu⟩
    exact ⟨_, _, ⟨_, _, ⟨_, _, ⟨_, ht, rfl⟩, hcs, rfl⟩, hd, rfl⟩, hu, rfl⟩

theorem tableOfFields_eq_ok_iff {t : Table} :
    tableOfFields entries = .ok t ↔
      required "name" entries name = .ok ⟨t.name, t.name_fits⟩ ∧
        required "type_name" entries typeName = .ok ⟨t.typeName, t.typeName_ok⟩ ∧
        optional "columns" entries [] (fun d => items column (columnsForm d)) = .ok t.columns ∧
        optional "primary_keys" entries [] (fun d => items text (keysForm d)) =
          .ok t.primaryKeys ∧
        optional "foreign_keys" entries [] (items foreignKey) = .ok t.foreignKeys ∧
        optional "constraints" entries [] (fun d => items check (constraintsForm d)) =
          .ok t.constraints := by
  simp only [tableOfFields, seq_eq_ok_iff, fmap_eq_ok_iff]
  constructor
  · rintro ⟨_, cs, ⟨_, fs, ⟨_, ks, ⟨_, cols, ⟨_, ty, ⟨n, hn, rfl⟩, hty, rfl⟩, hcols, rfl⟩, hks, rfl⟩,
      hfs, rfl⟩, hcs, rfl⟩
    exact ⟨hn, hty, hcols, hks, hfs, hcs⟩
  · rintro ⟨hn, hty, hcols, hks, hfs, hcs⟩
    exact ⟨_, _, ⟨_, _, ⟨_, _, ⟨_, _, ⟨_, _, ⟨_, hn, rfl⟩, hty, rfl⟩, hcols, rfl⟩, hks, rfl⟩, hfs,
      rfl⟩, hcs, rfl⟩

end TableSchema.Reading

namespace TableSchema

/-- A table has fields that are named by texts. -/
theorem Table.ofFields_eq_ok_iff {entries : List (Datum × Datum)} {t : Table} :
    Table.ofFields entries = .ok t ↔
      (∀ e ∈ entries, e.1.text?.isSome = true) ∧ Reading.tableOfFields entries = .ok t := by
  unfold ofFields
  by_cases h : (entries.all fun e => e.1.text?.isSome) = true
  · rw [if_pos h, Reading.construct_eq_ok_iff]
    exact ⟨fun ht => ⟨by simpa using h, ht⟩, fun ht => ht.2⟩
  · rw [if_neg h]
    exact ⟨fun ht => (nomatch ht), fun ht => absurd (by simpa using ht.1) h⟩

end TableSchema
