import TableSchema.Proofs.Document.Enumerations
import TableSchema.Proofs.Reading.Written
import TableSchema.Proofs.Registry.Soundness
import TableSchema.Proofs.ValueType.Spellings

/-!
# Documents that declare tables

Extensions and tables are written out as a document: every enumeration once under its name, every
table under its name with its columns, keys and constraints, and the type of a column by its name.
The document is read back as what it was written from if the names in it lead to what they stand
for: an enumeration has the same values wherever it is used, and none is named like a type of the
catalogue that a column has.
-/

namespace TableSchema

namespace Written

open Datum (text)

/-- The default of a column: a constant or an expression under a field of its own. -/
def default : Option ColumnDefault → List (Datum × Datum)
  | none => []
  | some (.literal v) => [(text "default", .atom v.toAtom)]
  | some (.expression s) => [(text "default_sql", text s)]

/-- A column without its name. -/
def column (c : Column) : Datum :=
  .map ([(text "type", text c.type.sqlName), (text "nullable", .atom (.bool c.nullable))] ++
    default c.default)

/-- The name of a column that has a text as its name. -/
def columnName (c : Column) : String :=
  c.nameText?.getD ""

/-- A table without its name. -/
def table (t : Table) : Datum :=
  .map [(text "type_name", text t.typeName), (text "columns", mapping columnName column t.columns),
    (text "primary_keys", .list (t.primaryKeys.map text)),
    (text "foreign_keys", .list (t.foreignKeys.map foreignKey)),
    (text "constraints", constraints t.constraints)]

/-- The values of an enumeration. -/
def values (e : EnumType) : Datum :=
  .list (e.values.map text)

/-- The document of extensions and tables. -/
def document (extensions : List String) (ts : List Table) : Datum :=
  .map [(text "extensions", .list (extensions.map text)),
    (text "enums", mapping (·.name) values (Registry.firstEnums ts)),
    (text "tables", mapping (·.name) table ts)]

/-- What a document can say of tables: the names of columns are texts of the length of a name,
constraints of one table have different names, columns with enumerations of one name have the same
values, and no enumeration has the name of a type that some column has from the catalogue. -/
structure Expressible (ts : List Table) : Prop where
  columns_named : ∀ t ∈ ts, ∀ c ∈ t.columns, ∃ n, c.name = .text n ∧ FitsName n
  constraints_nodup : ∀ t ∈ ts, (t.constraints.map (·.name)).Nodup
  enums_agree : ∀ e ∈ ts.flatMap (·.columnEnums), ∀ e' ∈ ts.flatMap (·.columnEnums),
    e.name = e'.name → e.values = e'.values
  enums_apart : ∀ e ∈ ts.flatMap (·.columnEnums), ∀ t ∈ ts, ∀ c ∈ t.columns,
    c.type.enum? = none → e.name ≠ c.type.sqlName

end Written

/-! ## Enumerations -/

/-- An enumeration with different values is declared by its name and the list of its values. -/
theorem EnumType.declare_written {e : EnumType} (h : e.values.Nodup) :
    EnumType.declare (Datum.text e.name) (Written.values e) = .ok e := by
  have hvalues : Reading.enumValues (Written.values e) = .ok ⟨e.values, e.values_ne_nil⟩ := by
    rw [Reading.enumValues_of_items? rfl rfl, Reading.enumValues_texts_eq_ok_iff,
      firsts_eq_self h]
  rw [EnumType.declare_eq_ofFields rfl, EnumType.ofFields_eq_ok_iff]
  exact ⟨Reading.name_text e.name_fits, hvalues⟩

namespace Document

open Written (Expressible)

/-- Enumerations under their names. -/
def namedEnums (es : List EnumType) : List (Datum × EnumType) :=
  es.map fun e => (Datum.text e.name, e)

variable {ts : List Table} {t : Table} {c : Column}

/-- An enumeration that columns use is the only one of its name that any of them uses. -/
theorem enum_eq_of_name_eq (h : Expressible ts) {e e' : EnumType}
    (he : e ∈ ts.flatMap (·.columnEnums)) (he' : e' ∈ ts.flatMap (·.columnEnums))
    (hname : e.name = e'.name) : e = e' := by
  have hvalues := h.enums_agree e he e' he' hname
  obtain ⟨n, vs, hfits, hne⟩ := e
  obtain ⟨n', vs', hfits', hne'⟩ := e'
  obtain rfl : n = n' := hname
  obtain rfl : vs = vs' := hvalues
  rfl

/-- So it is the first of its name in any list of enumerations of the columns. -/
theorem find?_name_eq_some (h : Expressible ts) {es : List EnumType}
    (hes : ∀ d ∈ es, d ∈ ts.flatMap (·.columnEnums)) {e : EnumType} (he : e ∈ es) :
    es.find? (fun d => d.name == e.name) = some e := by
  obtain ⟨e', hfirst⟩ : ∃ e', es.find? (fun d => d.name == e.name) = some e' :=
    Option.isSome_iff_exists.mp (List.find?_isSome.mpr ⟨e, he, by simp⟩)
  have he' : e' = e := enum_eq_of_name_eq h (hes e' (List.mem_of_find?_eq_some hfirst)) (hes e he)
    (by simpa using List.find?_some hfirst)
  rw [hfirst, he']

theorem mem_of_mem_firstEnums {e : EnumType} (h : e ∈ Registry.firstEnums ts) :
    e ∈ ts.flatMap (·.columnEnums) :=
  List.mem_of_find?_eq_some (mem_firstsBy.mp h)

theorem mem_firstEnums_of_mem (h : Expressible ts) {e : EnumType}
    (he : e ∈ ts.flatMap (·.columnEnums)) : e ∈ Registry.firstEnums ts := by
  have hname : e.name ∈ (Registry.firstEnums ts).map (·.name) := by
    rw [Registry.firstEnums, map_firstsBy, mem_firsts]
    exact List.mem_map_of_mem he
  obtain ⟨e', he', heq⟩ := List.mem_map.mp hname
  exact enum_eq_of_name_eq h (mem_of_mem_firstEnums he') he heq ▸ he'

/-- The enumerations are read back in the order in which they come first. -/
theorem enums_written (hc : Validation.IsCoherent ts) (h : Expressible ts) :
    enums ((Registry.firstEnums ts).map fun e => (Datum.text e.name, Written.values e)) =
      .ok (namedEnums (Registry.firstEnums ts)) := by
  rw [enums_eq_mapM, List.mapM_map, namedEnums]
  refine mapM_eq_ok_map fun e he => ?_
  have hvalues : e.values.Nodup := by
    obtain ⟨t, ht, het⟩ := List.mem_flatMap.mp (mem_of_mem_firstEnums he)
    have hfirst := find?_name_eq_some h (fun d hd => List.mem_flatMap.mpr ⟨t, ht, hd⟩) het
    exact ((hc.tables_wellFormed t ht).members_nodup e.name e hfirst).of_map _
  simp [EnumType.declare_written hvalues, constructed, Except.mapError, Except.map]

/-- The name of a column's type leads to the type. -/
theorem typeNamed_written (h : Expressible ts) (ht : t ∈ ts) (hc : c ∈ t.columns) :
    typeNamed (namedEnums (Registry.firstEnums ts)) c.type.sqlName = .ok c.type := by
  have hfind : (namedEnums (Registry.firstEnums ts)).find?
      (fun e => e.1.text? == some c.type.sqlName) =
        ((Registry.firstEnums ts).find? fun e => e.name == c.type.sqlName).map fun e =>
          (Datum.text e.name, e) := by
    rw [namedEnums, List.find?_map]
    rfl
  rw [typeNamed, hfind]
  cases htype : c.type.enum? with
  | some e =>
      obtain ⟨hname, he⟩ : c.type.sqlName = e.name ∧ c.type = .enumeration e := by
        cases hc' : c.type <;> simp_all [ValueType.enum?, ValueType.sqlName]
      have hmem : e ∈ ts.flatMap (·.columnEnums) :=
        List.mem_flatMap.mpr ⟨t, ht, List.mem_filterMap.mpr ⟨c, hc, htype⟩⟩
      have hfirst := find?_name_eq_some h (fun d => mem_of_mem_firstEnums)
        (mem_firstEnums_of_mem h hmem)
      rw [hname, hfirst, he]
      rfl
  | none =>
      have hnone : (Registry.firstEnums ts).find? (fun e => e.name == c.type.sqlName) = none := by
        rw [List.find?_eq_none]
        intro e he
        simpa using h.enums_apart e (mem_of_mem_firstEnums he) t ht c hc htype
      rw [hnone]
      simp [catalogueType, lookupType_sqlName htype, Except.mapError]

/-! ## Columns -/

/-- The fields of a column when its type and its default are objects. -/
def resolvedFields (c : Column) : Entries :=
  [(Datum.text "type", .built (.type c.type)), (Datum.text "nullable", .atom (.bool c.nullable))] ++
    (c.default.map fun d => (Datum.text "default", Datum.built (.default d))).toList

theorem constructed_value (v : Constant) :
    constructed (ColumnDefault.declare .value (.atom v.toAtom)) = .ok (.literal v) := by
  cases v <;> rfl

theorem constructed_expression (s : String) :
    constructed (ColumnDefault.declare .sql (Datum.text s)) = .ok (.expression s) := rfl

theorem columnFields_written {types : List (Datum × EnumType)} (name : Datum) {c : Column}
    (h : typeNamed types c.type.sqlName = .ok c.type) :
    columnFields types name (Written.column c) = .ok (resolvedFields c) := by
  have hfields : columnFields types name (Written.column c) =
      withDefault (plain name) ([(Datum.text "type", .built (.type c.type)),
        (Datum.text "nullable", .atom (.bool c.nullable))] ++ Written.default c.default) := by
    simp [columnFields, Written.column, entriesOf, h, Datum.putEntry, Datum.same_text_iff, bind,
      Except.bind]
  rw [hfields, resolvedFields]
  cases c.default with
  | none => rfl
  | some d =>
      cases d with
      | literal v =>
          simp [Written.default, withDefault, constructed_value, Datum.putEntry,
            Datum.same_text_iff]
      | expression s =>
          have hplain : plain (Datum.text s) = .ok s := rfl
          simp [Written.default, withDefault, hplain, constructed_expression, Datum.dropField,
            List.filter_cons, Datum.putEntry, Datum.same_text_iff, bind, Except.bind]
          rfl

/-- A column is read from its fields and its name. -/
theorem column_written {n : String} (hname : c.name = .text n) (hfits : FitsName n) :
    Reading.column (Reading.namedColumn (Datum.text n) (.map (resolvedFields c))) = .ok c := by
  have hdefault : Datum.field? "default" (resolvedFields c) =
      c.default.map fun d => .built (.default d) := by
    cases hd : c.default <;> simp [resolvedFields, hd]
  refine Reading.columnOfFields_eq_ok_iff.mpr ⟨⟨n, hfits⟩, hname, ?_, ?_, ?_, ?_⟩
  · exact Reading.required_of_field? (by simp) (Reading.name_text hfits)
  · exact Reading.required_of_field? (d := .built (.type c.type)) (by simp [resolvedFields]) rfl
  · exact Reading.optional_of_field? (d := .atom (.bool c.nullable)) (by simp [resolvedFields]) rfl
  · rw [Reading.optional_eq_ok_iff]
    cases hd : c.default with
    | none => exact Or.inr ⟨by simp [hdefault, hd], rfl⟩
    | some d => exact Or.inl ⟨.built (.default d), by simp [hdefault, hd], rfl⟩

/-! ## Tables -/

theorem columnName_eq {n : String} (h : c.name = .text n) : Written.columnName c = n := by
  rw [Written.columnName, Column.nameText?_eq_some_iff.mpr h, Option.getD_some]

theorem columnNames_nodup (hc : Validation.IsCoherent ts) (h : Expressible ts) (ht : t ∈ ts) :
    (t.columns.map Written.columnName).Nodup := by
  refine (hc.tables_wellFormed t ht).names_nodup ?_
  rw [Table.columnNames, List.map_map]
  refine List.map_congr_left fun c hcol => ?_
  obtain ⟨n, hn, -⟩ := h.columns_named t ht c hcol
  rw [Function.comp_apply, columnName_eq hn, hn]

theorem columns_written (h : Expressible ts) (ht : t ∈ ts) :
    columns (namedEnums (Registry.firstEnums ts))
        (t.columns.map fun c => (Datum.text (Written.columnName c), Written.column c)) =
      .ok (t.columns.map fun c => (Datum.text (Written.columnName c), .map (resolvedFields c))) := by
  rw [columns_eq_mapM, List.mapM_map]
  refine mapM_eq_ok_map fun c hcol => ?_
  simp [columnFields_written _ (typeNamed_written h ht hcol), Except.map]

/-- The columns of a table are read back with their types and defaults as objects. -/
theorem items_column_written (h : Expressible ts) (ht : t ∈ ts) :
    Reading.items Reading.column (Reading.columnsForm (.map (t.columns.map fun c =>
      (Datum.text (Written.columnName c), .map (resolvedFields c))))) = .ok t.columns := by
  rw [Reading.columnsForm, List.map_map]
  refine Reading.items_list fun c hcol => ?_
  obtain ⟨n, hn, hfits⟩ := h.columns_named t ht c hcol
  simp only [Function.comp_apply, columnName_eq hn]
  exact column_written hn hfits

theorem sectionEntries_of_field? {name : String} {entries es : Entries}
    (h : Datum.field? name entries = some (.map es)) : sectionEntries name entries = .ok es := by
  rw [sectionEntries, section?, h, Option.filter_some]
  cases es with
  | nil => rfl
  | cons e es => rfl

theorem table_written (hc : Validation.IsCoherent ts) (h : Expressible ts) (ht : t ∈ ts) :
    table (namedEnums (Registry.firstEnums ts)) (Datum.text t.name) (Written.table t) = .ok t := by
  have hmapping := Written.mapping_eq Written.column (columnNames_nodup hc h ht)
  have hkeys : Reading.items Reading.text
      (Reading.keysForm (.list (t.primaryKeys.map Datum.text))) = .ok t.primaryKeys :=
    Reading.items_list fun s _ => Reading.text_text s
  refine table_eq_ok_iff.mpr ⟨_, _, _, rfl, sectionEntries_of_field? ?_, columns_written h ht,
    Table.ofFields_eq_ok_iff.mpr ⟨?_, Reading.tableOfFields_eq_ok_iff.mpr ⟨?_, ?_, ?_, ?_, ?_, ?_⟩⟩⟩
  · simp [hmapping]
  · simp [Datum.putEntry, Datum.same_text_iff]
  · exact Reading.required_of_field? (by simp) (Reading.name_text t.name_fits)
  · exact Reading.required_of_field? (by simp) (Reading.typeName_text t.typeName_ok)
  · exact Reading.optional_of_field? (by simp) (items_column_written h ht)
  · exact Reading.optional_of_field? (by simp) hkeys
  · exact Reading.optional_of_field? (by simp)
      (Reading.items_list fun k _ => Reading.foreignKey_written k)
  · exact Reading.optional_of_field? (by simp)
      (Reading.constraints_written (h.constraints_nodup t ht))

theorem extensions_written {entries : Entries} {ns : List String}
    (h : Datum.field? "extensions" entries = some (.list (ns.map Datum.text))) :
    extensions entries = .ok ns := by
  have hall : ((ns.map Datum.text).all fun d => d.text?.isSome) = true := by
    simp
  have htexts : (ns.map Datum.text).filterMap Datum.text? = ns := by
    rw [List.filterMap_map]
    exact List.filterMap_some
  rw [extensions, section?, h, Option.filter_some]
  cases ns with
  | nil => rfl
  | cons n ns =>
      have htruthy : (Datum.list ((n :: ns).map Datum.text)).truthy = true := rfl
      rw [if_pos htruthy]
      simp only [hall, if_true, htexts]

/-- The document of extensions and tables that fit together is read back as they are. -/
theorem read_written (ns : List String) (hc : Validation.IsCoherent ts) (h : Expressible ts) :
    read (Written.document ns ts) = .ok ⟨ns, ts⟩ := by
  have hnames : ((Registry.firstEnums ts).map (·.name)).Nodup := nodup_map_firstsBy _ _
  have htables : tables (namedEnums (Registry.firstEnums ts))
      (ts.map fun t => (Datum.text t.name, Written.table t)) = .ok ts := by
    rw [tables_eq_mapM, List.mapM_map]
    exact (mapM_eq_ok_map (g := id) fun t ht => table_written hc h ht).trans (by rw [List.map_id])
  refine read_eq_ok_iff.mpr ⟨_, _, _, _, rfl, extensions_written ?_, sectionEntries_of_field? ?_,
    enums_written hc h, sectionEntries_of_field? ?_, htables⟩
  · simp
  · simp [Written.mapping_eq Written.values hnames]
  · simp [Written.mapping_eq Written.table hc.names_nodup]

end Document

end TableSchema
