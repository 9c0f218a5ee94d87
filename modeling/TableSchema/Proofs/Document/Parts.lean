import TableSchema.Document
import TableSchema.Proofs.Outcomes
import TableSchema.Proofs.Reading.Entries
import TableSchema.Proofs.Reading.Objects

/-!
# The parts of a document

A document is read in passes over its enumerations, its tables and the columns of each table, and it
can be read if and only if every step of every pass goes through. The columns of the tables that
come out have texts as their names.
-/

namespace TableSchema.Document

variable {known : List (Datum × EnumType)}

theorem enums_eq_mapM (es : Entries) :
    enums es = es.mapM fun e => (constructed (EnumType.declare e.1 e.2)).map (e.1, ·) := by
  induction es with
  | nil => rfl
  | cons e es ih =>
      rw [enums, ih, List.mapM_cons]
      cases constructed (EnumType.declare e.1 e.2) <;> rfl

theorem columns_eq_mapM (es : Entries) :
    columns known es = es.mapM fun e => (columnFields known e.1 e.2).map fun fields =>
      (e.1, .map fields) := by
  induction es with
  | nil => rfl
  | cons e es ih =>
      rw [columns, ih, List.mapM_cons]
      cases columnFields known e.1 e.2 <;> rfl

theorem tables_eq_mapM (es : Entries) : tables known es = es.mapM fun e => table known e.1 e.2 := by
  induction es with
  | nil => rfl
  | cons e es ih =>
      rw [tables, ih, List.mapM_cons]

/-- A table is read by resolving its columns and then constructing it from its fields. -/
theorem table_eq_ok_iff {name spec : Datum} {t : Table} :
    table known name spec = .ok t ↔
      ∃ fields es cols, (if spec.truthy then entriesOf spec else .ok []) = .ok fields ∧
        sectionEntries "columns" (Datum.putEntry (Datum.text "name") name fields) = .ok es ∧
        columns known es = .ok cols ∧
        Table.ofFields (Datum.putEntry (Datum.text "columns") (.map cols)
          (Datum.putEntry (Datum.text "name") name fields)) = .ok t := by
  have htable : table known name spec =
      ((if spec.truthy then entriesOf spec else .ok []) >>= fun fields =>
        sectionEntries "columns" (Datum.putEntry (Datum.text "name") name fields) >>= fun es =>
          columns known es >>= fun cols =>
            constructed (Table.ofFields (Datum.putEntry (Datum.text "columns") (.map cols)
              (Datum.putEntry (Datum.text "name") name fields)))) := by
    unfold table
    cases spec.truthy <;> rfl
  simp only [htable, bind_eq_ok_iff, constructed, mapError_eq_ok_iff]
  constructor
  · rintro ⟨fields, hfields, es, hes, cols, hcols, ht⟩
    exact ⟨fields, es, cols, hfields, hes, hcols, ht⟩
  · rintro ⟨fields, es, cols, hfields, hes, hcols, ht⟩
    exact ⟨fields, hfields, es, hes, cols, hcols, ht⟩

/-- A document is read by reading its extensions, its enumerations and its tables. -/
theorem read_eq_ok_iff {d : Datum} {ds : Declarations} :
    read d = .ok ds ↔
      ∃ entries es types ts, d = .map entries ∧ extensions entries = .ok ds.extensions ∧
        sectionEntries "enums" entries = .ok es ∧ enums es = .ok types ∧
        sectionEntries "tables" entries = .ok ts ∧ tables types ts = .ok ds.tables := by
  cases d with
  | map entries =>
      simp only [read, bind_eq_ok_iff]
      constructor
      · rintro ⟨ns, hns, es, hes, types, htypes, ts, hts, tables, htables, h⟩
        obtain rfl := Except.ok.inj h
        exact ⟨entries, es, types, ts, rfl, hns, hes, htypes, hts, htables⟩
      · rintro ⟨_, es, types, ts, h, hns, hes, htypes, hts, htables⟩
        obtain rfl := Datum.map.inj h
        exact ⟨_, hns, es, hes, types, htypes, ts, hts, _, htables, rfl⟩
  | _ => simp [read]

/-! ## Names of columns -/

/-- A column that is read from fields has a text as its name. -/
theorem nameText?_isSome_of_column {fields : Entries} {c : Column}
    (h : Reading.column (.map fields) = .ok c) : c.nameText?.isSome = true := by
  obtain ⟨n, hn, -⟩ := Reading.columnOfFields_eq_ok_iff.mp h
  simp [Column.nameText?, hn]

theorem nameText?_isSome_of_table {name spec : Datum} {t : Table}
    (h : table known name spec = .ok t) : ∀ c ∈ t.columns, c.nameText?.isSome = true := by
  obtain ⟨fields, es, cols, -, -, hcols, ht⟩ := table_eq_ok_iff.mp h
  obtain ⟨-, -, hcolumns, -⟩ :=
    Reading.tableOfFields_eq_ok_iff.mp (Table.ofFields_eq_ok_iff.mp ht).2
  -- The columns of the fields are the mapping that the pass over the columns gave.
  rw [Reading.optional_eq_ok_iff, Datum.field?_putEntry, if_pos rfl] at hcolumns
  rcases hcolumns with ⟨d, hd, hitems⟩ | ⟨hnone, -⟩
  · obtain rfl := Option.some.inj hd
    obtain ⟨parts, hparts, hread⟩ := Reading.items_eq_ok_iff.mp hitems
    obtain rfl := Option.some.inj hparts
    intro c hc
    obtain ⟨part, hpart, hcolumn⟩ := Reading.exists_item_of_mem hread hc
    obtain ⟨e, he, rfl⟩ := List.mem_map.mp hpart
    obtain ⟨fields, hfields⟩ : ∃ fields, e.2 = .map fields := by
      obtain ⟨e', -, he'⟩ := exists_of_mem_of_mapM (columns_eq_mapM es ▸ hcols) he
      obtain ⟨fields, -, rfl⟩ := map_eq_ok_iff.mp he'
      exact ⟨fields, rfl⟩
    rw [hfields] at hcolumn
    exact nameText?_isSome_of_column hcolumn
  · cases hnone

/-- Every column that a document declares has a text as its name. -/
theorem nameText?_isSome_of_read {d : Datum} {ds : Declarations} (h : read d = .ok ds) :
    ∀ t ∈ ds.tables, ∀ c ∈ t.columns, c.nameText?.isSome = true := by
  obtain ⟨entries, es, types, ts, -, -, -, -, -, htables⟩ := read_eq_ok_iff.mp h
  intro t ht
  obtain ⟨e, -, he⟩ := exists_of_mem_of_mapM (tables_eq_mapM ts ▸ htables) ht
  exact nameText?_isSome_of_table he

end TableSchema.Document
