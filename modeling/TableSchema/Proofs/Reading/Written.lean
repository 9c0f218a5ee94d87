import TableSchema.Proofs.Reading.Entries
import TableSchema.Proofs.Reading.Objects

/-!
# Objects that are written out

An object is written out as a mapping of its fields. What can be left out is left out if it is not
there: an action that was not asked for has no field. Keys of mappings are written once, at the
place of the first and with the value of the last. What was written out is read back as it was.
-/

namespace TableSchema

namespace Written

open Datum (text)

/-- An action under the name of its field, or nothing. -/
def action (field : String) : Option ReferentialAction → List (Datum × Datum)
  | none => []
  | some a => [(text field, text (Vocabulary.word a))]

/-- A pair of columns. -/
def reference (r : ColumnReference) : Datum :=
  .map [(text "local", text r.localName), (text "foreign", text r.foreignName)]

/-- A foreign key. -/
def foreignKey (k : ForeignKey) : Datum :=
  .map ([(text "table", text k.table), (text "columns", .list (k.columns.map reference))] ++
    action "on_delete" k.onDelete ++ action "on_update" k.onUpdate)

/-- A mapping from names to values. -/
def mapping {α : Type} (name : α → String) (value : α → Datum) (as : List α) : Datum :=
  .map (Datum.entriesOf (as.map fun a => (text (name a), value a)))

/-- Check constraints by their names. -/
def constraints (cs : List CheckConstraint) : Datum :=
  mapping (·.name) (fun c => text c.expression) cs

theorem mapping_eq {α : Type} {name : α → String} (value : α → Datum) {as : List α}
    (h : (as.map name).Nodup) :
    mapping name value as = .map (as.map fun a => (text (name a), value a)) := by
  rw [mapping, Datum.entriesOf_map_eq_self h]

end Written

namespace Reading

variable {α : Type} {s : String}

/-- A field that is there is read as its value is. -/
theorem required_of_field? {name : String} {entries : List (Datum × Datum)}
    {read : Datum → Reading α} {d : Datum} {a : α} (hd : Datum.field? name entries = some d)
    (ha : read d = .ok a) : required name entries read = .ok a :=
  required_eq_ok_iff.mpr ⟨d, hd, ha⟩

theorem optional_of_field? {name : String} {entries : List (Datum × Datum)}
    {read : Datum → Reading α} {default : α} {d : Datum} {a : α}
    (hd : Datum.field? name entries = some d) (ha : read d = .ok a) :
    optional name entries default read = .ok a :=
  optional_eq_ok_iff.mpr (Or.inl ⟨d, hd, ha⟩)

@[simp] theorem text_text (s : String) : text (Datum.text s) = .ok s := rfl

theorem name_text (h : FitsName s) : name (Datum.text s) = .ok ⟨s, h⟩ := by
  simp [name, andThen, h]

theorem nonempty_text (h : s ≠ "") : nonempty (Datum.text s) = .ok ⟨s, h⟩ := by
  simp [nonempty, andThen, h]

theorem typeName_text (h : isTypeName s = true) : typeName (Datum.text s) = .ok ⟨s, h⟩ := by
  simp [typeName, andThen, h]

/-- The word of an action is looked up as it stands. -/
theorem action_word (a : ReferentialAction) :
    action (Datum.text (Vocabulary.word a)) = .ok (some a) := by
  have htext : actionText (Vocabulary.word a) = Vocabulary.word a := by
    cases a <;> decide
  have hword : Vocabulary.ofWord? (Vocabulary.word a) = some a := by
    cases a <;> decide
  have haction : action (Datum.text (Vocabulary.word a)) =
      some <$> word .notMember (Datum.text (actionText (Vocabulary.word a))) := rfl
  rw [haction, htext, word, Datum.text?_text, Option.bind_some, hword]
  rfl

theorem optional_action (field : String) (a : Option ReferentialAction)
    {entries : List (Datum × Datum)}
    (h : Datum.field? field entries = a.map fun a => Datum.text (Vocabulary.word a)) :
    optional field entries none action = .ok a := by
  rw [optional_eq_ok_iff, h]
  cases a with
  | none => exact Or.inr ⟨rfl, rfl⟩
  | some a => exact Or.inl ⟨_, rfl, action_word a⟩

/-- Items that are read back one by one are read back together. -/
theorem items_list {read : Datum → Reading α} {write : α → Datum} {as : List α}
    (h : ∀ a ∈ as, read (write a) = .ok a) : items read (.list (as.map write)) = .ok as := by
  refine items_eq_ok_iff.mpr ⟨_, rfl, ?_⟩
  rw [List.map_map]
  exact List.map_congr_left h

theorem reference_written (r : ColumnReference) : reference (Written.reference r) = .ok r := by
  have hlocal := nonempty_text r.localName_ne_empty
  have hforeign := nonempty_text r.foreignName_ne_empty
  simp [reference, Written.reference, required, within, map, hlocal, hforeign]

theorem foreignKey_written (k : ForeignKey) : foreignKey (Written.foreignKey k) = .ok k := by
  have hreferences : references (.list (k.columns.map Written.reference)) =
      .ok ⟨k.columns, k.columns_ne_nil⟩ := by
    refine map_eq_ok_iff.mpr
      ⟨⟨k.columns, List.length_pos_iff.mpr k.columns_ne_nil⟩, ?_, rfl⟩
    refine sequence_eq_ok_iff.mpr ⟨_, rfl, ?_⟩
    rw [List.map_map]
    exact List.map_congr_left fun r _ => reference_written r
  have hdelete : Datum.field? "on_delete" (Written.action "on_delete" k.onDelete ++
      Written.action "on_update" k.onUpdate) =
        k.onDelete.map fun a => Datum.text (Vocabulary.word a) := by
    cases k.onDelete <;> cases k.onUpdate <;> simp [Written.action]
  have hupdate : Datum.field? "on_update" (Written.action "on_delete" k.onDelete ++
      Written.action "on_update" k.onUpdate) =
        k.onUpdate.map fun a => Datum.text (Vocabulary.word a) := by
    cases k.onDelete <;> cases k.onUpdate <;> simp [Written.action]
  refine foreignKeyOfFields_eq_ok_iff.mpr ⟨?_, ?_, ?_, ?_⟩
  · exact required_of_field? (by simp) (nonempty_text k.table_ne_empty)
  · exact required_of_field? (by simp) hreferences
  · exact optional_action "on_delete" k.onDelete (by simpa using hdelete)
  · exact optional_action "on_update" k.onUpdate (by simpa using hupdate)

/-- Constraints under different names are read back. -/
theorem constraints_written {cs : List CheckConstraint} (h : (cs.map (·.name)).Nodup) :
    items check (constraintsForm (Written.constraints cs)) = .ok cs := by
  rw [Written.constraints, Written.mapping_eq _ h, constraintsForm, List.map_map]
  refine items_list fun c _ => ?_
  have hname := name_text c.name_fits
  have hexpression := nonempty_text c.expression_ne_empty
  simp [check, required, within, map, hname, hexpression]

end Reading

end TableSchema
