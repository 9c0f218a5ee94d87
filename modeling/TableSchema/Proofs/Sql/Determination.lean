import TableSchema.Proofs.Sql.Statements
import TableSchema.Proofs.Sql.Texts

/-!
# The create script determines the schema

Under quoted names and without guards, the create script of plain tables shows its extensions, its
enumerations and the outlines of its tables, and nothing else: two inputs have one text if and only
if they agree in these. Names, values and defaults may hold any text, whole statements included.
-/

namespace TableSchema

theorem Settings.wrap_injective (s : Settings) (banner : String → String) :
    Function.Injective (s.wrap banner) := by
  intro body body' h
  unfold wrap at h
  split at h
  · simpa using h
  · split at h <;> split at h <;> simp_all

namespace Sql

open Text

namespace Shown

/-- The name of the extension. -/
def extension? : Shown → Option String
  | .extension n => some n
  | _ => none

/-- The enumeration. -/
def enumeration? : Shown → Option EnumType
  | .enumeration t => some t
  | _ => none

/-- The outline of the table. -/
def table? : Shown → Option TableOutline
  | .table t => some t
  | _ => none

/-- What a create script shows: extensions first, then enumerations, then tables. -/
def script (extensions : List String) (types : List EnumType) (tables : List TableOutline) :
    List Shown :=
  extensions.map extension ++ types.map enumeration ++ tables.map table

theorem script_inj {extensions extensions' : List String} {types types' : List EnumType}
    {tables tables' : List TableOutline}
    (h : script extensions types tables = script extensions' types' tables') :
    extensions = extensions' ∧ types = types' ∧ tables = tables' := by
  have hextensions (es : List String) (ts : List EnumType) (us : List TableOutline) :
      (script es ts us).filterMap extension? = es := by
    simp [script, Function.comp_def, extension?]
  have htypes (es : List String) (ts : List EnumType) (us : List TableOutline) :
      (script es ts us).filterMap enumeration? = ts := by
    simp [script, Function.comp_def, enumeration?]
  have htables (es : List String) (ts : List EnumType) (us : List TableOutline) :
      (script es ts us).filterMap table? = us := by
    simp [script, Function.comp_def, table?]
  refine ⟨?_, ?_, ?_⟩
  · rw [← hextensions extensions types tables, h, hextensions]
  · rw [← htypes extensions types tables, h, htypes]
  · rw [← htables extensions types tables, h, htables]

end Shown

variable {s : Settings} {tables tables' : List Table} {extensions extensions' : List String}
  {types types' : CustomTypes}

theorem map_shown?_createStatements (tables : List Table) (extensions : List String)
    (types : CustomTypes) :
    (createStatements tables extensions types).map Statement.shown? =
      (Shown.script extensions (types.map (·.2)) (tables.map Table.outline)).map some := by
  simp [createStatements, extensionStatements, enumStatements, tableStatements, Statement.shown?,
    Shown.script, Function.comp_def]

/-- What is shown of the statements is what is shown of the schema. -/
theorem map_shown?_createStatements_eq_iff :
    (createStatements tables extensions types).map Statement.shown? =
        (createStatements tables' extensions' types').map Statement.shown? ↔
      extensions = extensions' ∧ types.map (·.2) = types'.map (·.2) ∧
        tables.map Table.outline = tables'.map Table.outline := by
  rw [map_shown?_createStatements, map_shown?_createStatements]
  constructor
  · intro h
    exact Shown.script_inj (List.map_injective_iff.mpr (fun _ _ => Option.some.inj) h)
  · rintro ⟨rfl, htypes, htables⟩
    rw [htypes, htables]

theorem isPlain_createStatements (ht : ∀ t ∈ tables, t.IsPlain) (extensions : List String)
    (types : CustomTypes) :
    ∀ st ∈ createStatements tables extensions types, st.IsPlain := by
  intro st hst
  simp only [createStatements, extensionStatements, enumStatements, tableStatements,
    List.mem_append, List.mem_map] at hst
  rcases hst with (⟨n, _, rfl⟩ | ⟨e, _, rfl⟩) | ⟨t, hmem, rfl⟩
  · exact .createExtension n
  · exact .createEnum e.2
  · exact .createTable (ht t hmem)

/-- The texts of plain statements are their spellings. -/
theorem map_toList_of_texts (hs : s.policy = .quoted) (hguard : s.guardEnumTypes = false)
    {sts : List Statement} (hsts : ∀ st ∈ sts, st.IsPlain) {parts : List String}
    (h : texts s sts = .ok parts) :
    parts.map String.toList = sts.map fun st => spelling (st.fragments s.sqlIndentText) := by
  have hall := texts_eq_ok_iff.mp h
  clear h
  induction hall with
  | nil => rfl
  | cons hpart _ ih =>
      obtain ⟨hst, hsts⟩ := List.forall_mem_cons.mp hsts
      rw [List.map_cons, List.map_cons, Statement.toList_text hs hguard hst hpart, ih hsts]

/-- Schemas that show the same are spelled the same. -/
theorem map_spelling_createStatements_eq (indent : String) (hextensions : extensions = extensions')
    (htypes : types.map (·.2) = types'.map (·.2))
    (htables : tables.map Table.outline = tables'.map Table.outline) :
    (createStatements tables extensions types).map (fun st => spelling (st.fragments indent)) =
      (createStatements tables' extensions' types').map fun st =>
        spelling (st.fragments indent) := by
  have hparts (tables : List Table) (extensions : List String) (types : CustomTypes) :
      (createStatements tables extensions types).map (fun st => spelling (st.fragments indent)) =
        extensions.map (fun n => spelling (createExtension n)) ++
          (types.map (·.2)).map (fun t => spelling (createEnum (.identifier t.name) t.values)) ++
          tables.map fun t => spelling (tableFragments indent t) := by
    simp [createStatements, extensionStatements, enumStatements, tableStatements,
      Statement.fragments, Function.comp_def]
  have hspelled : (fun t => spelling (tableFragments indent t)).FactorsThrough Table.outline :=
    fun _ _ h => congrArg spelling (tableFragments_eq_of_outline_eq indent h)
  rw [hparts, hparts, hextensions, htypes, map_eq_map_of_factorsThrough hspelled htables]

/-- The blocks of a create script before the banner is put around them. -/
def body (extensions types : Nat) (parts : List String) : String :=
  joinBlocks
    ["\n".intercalate (parts.take extensions),
      "\n".intercalate ((parts.drop extensions).take types),
      "\n\n".intercalate ((parts.drop extensions).drop types)] "\n\n"

theorem laidOut_body (extensions types : Nat) (parts : List String) :
    LaidOut (parts.map String.toList) (body extensions types parts).toList := by
  have hblock (n : Nat) (separator : String) (hseparator : separator.toList = List.replicate n '\n')
      (parts : List String) :
      LaidOut (parts.map String.toList) (separator.intercalate parts).toList := by
    rw [String.toList_intercalate, hseparator]
    exact LaidOut.intercalate n _
  have hblocks := LaidOut.intercalate_filter 2 <|
    .cons (hblock 1 "\n" rfl (parts.take extensions)) <|
    .cons (hblock 1 "\n" rfl ((parts.drop extensions).take types)) <|
    .cons (hblock 2 "\n\n" rfl ((parts.drop extensions).drop types)) .nil
  simp only [List.flatten_cons, List.flatten_nil, List.append_nil, ← List.map_append,
    List.take_append_drop] at hblocks
  rw [body, toList_joinBlocks]
  exact hblocks

theorem createLayout_eq (s : Settings) (extensions types : Nat) (parts : List String) :
    createLayout s extensions types parts = s.wrap (banner s) (body extensions types parts) := rfl

/-- The create script determines the schema. Of two inputs whose create scripts can be written, the
texts are equal if and only if the extensions, the enumerations and the outlines of the tables
are. -/
theorem createScript_text_eq_iff {text text' : String} (hquote : s.quoteIdentifiers = true)
    (hguard : s.guardEnumTypes = false) (ht : ∀ t ∈ tables, t.IsPlain)
    (ht' : ∀ t ∈ tables', t.IsPlain)
    (h : createScript s tables extensions types = .ok text)
    (h' : createScript s tables' extensions' types' = .ok text') :
    text = text' ↔
      extensions = extensions' ∧ types.map (·.2) = types'.map (·.2) ∧
        tables.map Table.outline = tables'.map Table.outline := by
  have hs : s.policy = .quoted := by rw [Settings.policy, hquote]; rfl
  rw [createScript_eq] at h h'
  obtain ⟨parts, hparts, rfl⟩ := map_eq_ok_iff.mp h
  obtain ⟨parts', hparts', rfl⟩ := map_eq_ok_iff.mp h'
  have hplain := isPlain_createStatements ht extensions types
  have hplain' := isPlain_createStatements ht' extensions' types'
  have hspelled := map_toList_of_texts hs hguard hplain hparts
  have hspelled' := map_toList_of_texts hs hguard hplain' hparts'
  rw [← map_shown?_createStatements_eq_iff]
  constructor
  · intro heq
    rw [createLayout_eq, createLayout_eq] at heq
    have hbody := s.wrap_injective (banner s) heq
    refine LaidOut.map_view_eq (unambiguous_statement s.sqlIndent)
      (fun st hst => Statement.beginsPart hst _) hplain hplain'
      (hspelled ▸ laidOut_body extensions.length types.length parts) ?_
    rw [hbody]
    exact hspelled' ▸ laidOut_body extensions'.length types'.length parts'
  · intro heq
    obtain ⟨rfl, htypes, htables⟩ := map_shown?_createStatements_eq_iff.mp heq
    have hchars : parts.map String.toList = parts'.map String.toList := by
      rw [hspelled, hspelled', map_spelling_createStatements_eq _ rfl htypes htables]
    have hlength : types.length = types'.length := by
      simpa using congrArg List.length htypes
    rw [List.map_injective_iff.mpr (fun _ _ => String.toList_inj.mp) hchars, hlength]

end Sql

namespace Sample

/-- The mood of a note. -/
def mood : EnumType :=
  ⟨"mood", ["fine", "it's bad"], by decide, by decide⟩

/-- The mood with another list of values. -/
def calmMood : EnumType :=
  ⟨"mood", ["fine"], by decide, by decide⟩

/-- Notes with a default that reads like the end of the statement. -/
def notes : Table where
  name := "notes"
  typeName := "Note"
  columns := [⟨.text "the \"body\"", .scalar .text, false, some (.literal (.text "');\n\\"))⟩,
    ⟨.text "mood", .enumeration mood, true, none⟩,
    ⟨.text "part", .scalar .integer, false, some (.literal (.int (-1)))⟩]
  primaryKeys := ["part"]
  foreignKeys := [⟨"notes", [⟨"part", "part", by decide, by decide⟩], none, some .cascade,
    by decide, by decide⟩]
  constraints := []
  name_fits := by decide
  typeName_ok := by decide

/-- The notes under another record type, where the mood has other values and the key says that
nothing happens on deletion. -/
def remarks : Table where
  name := "notes"
  typeName := "Remark"
  columns := [⟨.text "the \"body\"", .scalar .text, false, some (.literal (.text "');\n\\"))⟩,
    ⟨.text "mood", .enumeration calmMood, true, none⟩,
    ⟨.text "part", .scalar .integer, false, some (.literal (.int (-1)))⟩]
  primaryKeys := ["part"]
  foreignKeys := [⟨"notes", [⟨"part", "part", by decide, by decide⟩], some .noAction, some .cascade,
    by decide, by decide⟩]
  constraints := []
  name_fits := by decide
  typeName_ok := by decide

/-- The create script of the notes and of the remarks. -/
def notesScript : String :=
  "CREATE EXTENSION IF NOT EXISTS \"citext\";\n\n" ++
  "CREATE TYPE \"mood\" AS ENUM ('fine', 'it''s bad');\n\n" ++
  "CREATE TABLE IF NOT EXISTS \"notes\" (\n" ++
  "  \"the \"\"body\"\"\" TEXT NOT NULL DEFAULT  E''');\n\\\\',\n" ++
  "  \"mood\" \"mood\",\n" ++
  "  \"part\" INTEGER NOT NULL DEFAULT -1,\n\n" ++
  "  PRIMARY KEY (\"part\"),\n" ++
  "  FOREIGN KEY (\"part\") REFERENCES \"notes\" (\"part\") ON DELETE NO ACTION " ++
  "ON UPDATE CASCADE\n);\n"

end Sample

namespace Sql

theorem notes_remarks_outline_eq :
    let s : Settings := { quoteIdentifiers := true, includeBanner := false }
    let types : CustomTypes := [("mood", Sample.mood)]
    createScript s [Sample.notes] ["citext"] types = .ok Sample.notesScript ∧
      createScript s [Sample.remarks] ["citext"] types = .ok Sample.notesScript ∧
      Sample.notes ≠ Sample.remarks ∧
      [Sample.notes].map Table.outline = [Sample.remarks].map Table.outline := by
  intro s types
  have h : createScript s [Sample.notes] ["citext"] types = .ok Sample.notesScript := by
    decide +kernel
  have h' : createScript s [Sample.remarks] ["citext"] types = .ok Sample.notesScript := by
    decide +kernel
  obtain ⟨-, -, houtlines⟩ :=
    (createScript_text_eq_iff rfl rfl (by decide) (by decide) h h').mp rfl
  exact ⟨h, h', by decide, houtlines⟩

end Sql

end TableSchema
