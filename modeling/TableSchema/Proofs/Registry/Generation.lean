import TableSchema.Proofs.Registry.Soundness
import TableSchema.Proofs.Sql.Writability
import TableSchema.Proofs.TypeScript.Declarations

/-!
# What a registry can generate

If the columns of a registry have texts as their names and no integer is too long, then only the
character of code zero can stand in the way of its create script, and only where a string constant
is written: in a value of a registered enumeration, in a text that is a default, and in the name of
an enumeration whose creation is guarded. Expressions and identifiers may hold it, and so may the
values of an enumeration that was declared under its name before.
-/

namespace TableSchema

namespace ColumnDefault

/-- If the default is an integer, it can be written. -/
def HasShortInteger : ColumnDefault → Prop
  | .literal (.int n) => IsShort n
  | _ => True

/-- The default is a text that holds the character of code zero. -/
def HoldsNul : ColumnDefault → Prop
  | .literal (.text s) => ¬ IsNulFree s
  | _ => False

instance : (d : ColumnDefault) → Decidable d.HasShortInteger
  | .literal (.int n) => inferInstanceAs (Decidable (IsShort n))
  | .literal (.bool _) | .literal (.float _) | .literal (.text _) | .expression _ => isTrue trivial

instance : (d : ColumnDefault) → Decidable d.HoldsNul
  | .literal (.text s) => inferInstanceAs (Decidable (¬ IsNulFree s))
  | .literal (.bool _) | .literal (.int _) | .literal (.float _) | .expression _ => isFalse id

theorem isWritable_iff {d : ColumnDefault} :
    d.IsWritable ↔ d.HasShortInteger ∧ ¬ d.HoldsNul := by
  cases d with
  | expression s => simp [IsWritable, HasShortInteger, HoldsNul]
  | literal v => cases v <;> simp [IsWritable, HasShortInteger, HoldsNul]

end ColumnDefault

namespace Sql

/-- What cannot be written out holds a string constant with the character of code zero. -/
theorem eq_nulInLiteral_of_render {fs : Fragments} {f : Fault} (h : render fs = .error f) :
    f = .nulInLiteral := by
  rw [render_eq, map_eq_error_iff] at h
  obtain ⟨g, -, hg⟩ := exists_of_mapM_eq_error h
  cases g with
  | verbatim s => cases hg
  | identifier s => cases hg
  | literal s =>
      rw [Fragment.text] at hg
      split at hg
      · exact (Except.error.inj hg).symm
      · cases hg

theorem exists_defaultExpression {d : ColumnDefault} (h : d.HasShortInteger) :
    ∃ f, defaultExpression d = .ok f := by
  cases d with
  | expression e => exact ⟨_, rfl⟩
  | literal v =>
      cases v with
      | bool b | float x | text s => exact ⟨_, rfl⟩
      | int n =>
          obtain ⟨text, htext⟩ : ∃ text, Number.integerText n = .ok text :=
            exists_integerText_iff.mpr h
          refine ⟨.verbatim text, ?_⟩
          unfold defaultExpression
          simp [htext]

/-- A column with a text as its name and no long integer can be composed. -/
theorem exists_columnDefinition (p : IdentifierPolicy) {c : Column}
    (hname : c.nameText?.isSome = true) (hinteger : ∀ d ∈ c.default, d.HasShortInteger) :
    ∃ fs, columnDefinition p c = .ok fs := by
  obtain ⟨n, hn⟩ := Option.isSome_iff_exists.mp hname
  rw [columnDefinition_eq_map hn]
  cases hd : c.default with
  | none => exact ⟨_, rfl⟩
  | some d =>
      obtain ⟨f, hf⟩ := exists_defaultExpression (hinteger d hd)
      rw [defaultClause, hf]
      exact ⟨_, rfl⟩

/-- A table whose columns have texts as names and no long integers can be composed. -/
theorem exists_compose_createTable (s : Settings) {t : Table}
    (hnames : ∀ c ∈ t.columns, c.nameText?.isSome = true)
    (hintegers : ∀ c ∈ t.columns, ∀ d ∈ c.default, d.HasShortInteger) :
    ∃ fs, (Statement.createTable t).compose s = .ok fs := by
  obtain ⟨parts, hparts⟩ : ∃ parts, t.columns.mapM (columnDefinition s.policy) = .ok parts :=
    exists_mapM_eq_ok_iff.mpr fun c hc =>
      exists_columnDefinition s.policy (hnames c hc) (hintegers c hc)
  rw [Statement.compose, tableDefinition, hparts]
  exact ⟨_, rfl⟩

end Sql

namespace Registry

/-- A string constant of the create script would hold the character of code zero. -/
def WritesNul (r : Registry) : Prop :=
  (∃ e ∈ r.customTypes, ∃ v ∈ e.2.values, ¬ IsNulFree v) ∨
    (∃ t ∈ r.tables, ∃ c ∈ t.columns, ∃ d ∈ c.default, d.HoldsNul) ∨
    r.settings.guardEnumTypes = true ∧ ∃ e ∈ r.customTypes, ¬ IsNulFree e.2.name

instance (r : Registry) : Decidable r.WritesNul :=
  inferInstanceAs (Decidable (_ ∨ _ ∨ _ ∧ _))

section Scripts

variable {r : Registry}
  (hnames : ∀ t ∈ r.tables, ∀ c ∈ t.columns, c.nameText?.isSome = true)
  (hintegers : ∀ t ∈ r.tables, ∀ c ∈ t.columns, ∀ d ∈ c.default, d.HasShortInteger)

include hnames hintegers

/-- With texts as names and integers within the limit only null characters are in the way. -/
theorem canBeWritten_iff :
    Sql.CanBeWritten r.settings r.tables r.customTypes ↔ ¬ r.WritesNul := by
  have hcolumns : (∀ t ∈ r.tables, ∀ c ∈ t.columns, c.IsWritable) ↔
      ¬ ∃ t ∈ r.tables, ∃ c ∈ t.columns, ∃ d ∈ c.default, d.HoldsNul := by
    push Not
    refine forall₂_congr fun t ht => forall₂_congr fun c hc => ?_
    rw [Column.IsWritable, and_iff_right (hnames t ht c hc)]
    refine forall₂_congr fun d hd => ?_
    rw [ColumnDefault.isWritable_iff, and_iff_right (hintegers t ht c hc d hd)]
  have htypes : (∀ e ∈ r.customTypes, e.2.IsWritable r.settings) ↔
      (¬ ∃ e ∈ r.customTypes, ∃ v ∈ e.2.values, ¬ IsNulFree v) ∧
        ¬ (r.settings.guardEnumTypes = true ∧ ∃ e ∈ r.customTypes, ¬ IsNulFree e.2.name) := by
    push Not
    constructor
    · intro h
      exact ⟨fun e he => (h e he).2, fun hguard e he => (h e he).1 hguard⟩
    · rintro ⟨hvalues, hguarded⟩ e he
      exact ⟨fun hguard => hguarded hguard e he, hvalues e he⟩
  have hparts : Sql.CanBeWritten r.settings r.tables r.customTypes ↔
      (∀ e ∈ r.customTypes, e.2.IsWritable r.settings) ∧
        ∀ t ∈ r.tables, ∀ c ∈ t.columns, c.IsWritable :=
    ⟨fun h => ⟨h.types, h.columns⟩, fun h => ⟨h.1, h.2⟩⟩
  rw [hparts, htypes, hcolumns, WritesNul, not_or, not_or, and_assoc]
  exact and_congr_right fun _ => and_comm

/-- Then the create script fails with that fault or not at all. -/
theorem eq_nulInLiteral_of_createScript {f : Sql.Fault}
    (h : Sql.createScript r.settings r.tables r.extensions r.customTypes = .error f) :
    f = .nulInLiteral := by
  rw [Sql.createScript_eq, map_eq_error_iff] at h
  obtain ⟨st, hst, htext⟩ := exists_of_mapM_eq_error h
  have hcompose : ∃ fs, st.compose r.settings = .ok fs := by
    simp only [Sql.createStatements, Sql.extensionStatements, Sql.enumStatements,
      Sql.tableStatements, List.mem_append, List.mem_map] at hst
    rcases hst with (⟨n, -, rfl⟩ | ⟨e, -, rfl⟩) | ⟨t, ht, rfl⟩
    · exact ⟨_, rfl⟩
    · exact ⟨_, rfl⟩
    · exact Sql.exists_compose_createTable r.settings (hnames t ht) (hintegers t ht)
  obtain ⟨fs, hfs⟩ := hcompose
  rw [Sql.Statement.text, hfs] at htext
  exact Sql.eq_nulInLiteral_of_render htext

end Scripts

/-- After any operations the declarations and the drop script can be generated, provided that
columns have texts as names and integers are within the limit. The create script is generated
unless a string constant in it holds the character of code zero, and then it fails for that. Of each
name only the first enumeration that was declared is among the string constants. -/
theorem after_generates (s : Settings) (ops : List Operation) (before now : Log.Trace) :
    let r := ((Session.performAll { settings := s } ops).run before).1
    (∀ t ∈ r.tables, ∀ c ∈ t.columns, c.nameText?.isSome = true) →
    (∀ t ∈ r.tables, ∀ c ∈ t.columns, ∀ d ∈ c.default, d.HasShortInteger) →
      (∃ text, ((Session.generateTypescript r).run now).1 = .ok text) ∧
        (∃ text, ((Session.generateDrop r).run now).1 = .ok text) ∧
        ((∃ text, ((Session.generateSql r).run now).1 = .ok text) ↔ ¬ r.WritesNul) ∧
        (((Session.generateSql r).run now).1 = .error (.sql .nulInLiteral) ↔ r.WritesNul) ∧
        r.customTypes = keyed (firstEnums r.tables) := by
  intro r hnames hintegers
  have hr : r.IsSound := isSound_performAll s ops before
  have hissues : r.issues = [] := hr.issues_eq_nil
  have hcreate := canBeWritten_iff hnames hintegers
  rw [Session.generateSql_run_fst now hissues, Session.generateTypescript_run_fst now hissues,
    Session.generateDrop_run_fst now hissues]
  simp only [mapError_eq_ok_iff]
  refine ⟨TypeScript.exists_declarations_iff.mpr hnames, Sql.exists_dropScript _ _ _ _,
    Sql.exists_createScript_iff.trans hcreate, ?_, hr.customTypes_eq⟩
  rw [← not_iff_not, ← hcreate, ← Sql.exists_createScript_iff]
  cases hscript : Sql.createScript r.settings r.tables r.extensions r.customTypes with
  | ok text => simp [Except.mapError]
  | error f =>
      obtain rfl := eq_nulInLiteral_of_createScript hnames hintegers hscript
      simp [Except.mapError]

end Registry

namespace Sample

/-- Parcels, each with a state whose values have no null characters. -/
def parcels : Table where
  name := "parcels"
  typeName := "Parcel"
  columns := [⟨.text "id", .scalar .integer, false, some (.literal (.int (-1)))⟩,
    ⟨.text "state", .enumeration ⟨"parcel_state", ["new", "sent"], by decide, by decide⟩, false,
      some (.literal (.text "new"))⟩]
  primaryKeys := ["id"]
  foreignKeys := []
  constraints := []
  name_fits := by decide
  typeName_ok := by decide

/-- Letters, which declare the state again with a null character in a value, and hold null
characters in their name, in a name of a column, in an expression, and in a check. -/
def letters : Table where
  name := "letters\x00"
  typeName := "Letter"
  columns := [⟨.text "i\x00d", .scalar .integer, false, some (.expression "1 \x00")⟩,
    ⟨.text "state", .enumeration ⟨"parcel_state", ["new", "lost\x00"], by decide, by decide⟩, true,
      none⟩]
  primaryKeys := ["i\x00d"]
  foreignKeys := []
  constraints := [⟨"positive\x00", "1 > \x00", by decide, by decide⟩]
  name_fits := by decide
  typeName_ok := by decide

end Sample

namespace Registry

/-- The create script is generated if the state without null characters is declared first. -/
theorem parcels_letters_generates :
    let r := ((Session.performAll { settings := { guardEnumTypes := true } }
      [.addExtension "\x00", .addTable Sample.parcels, .addTable Sample.letters]).run {}).1
    r.tables = [Sample.parcels, Sample.letters] ∧
      (∀ t ∈ r.tables, ∀ c ∈ t.columns, c.nameText?.isSome = true) ∧
      (∀ t ∈ r.tables, ∀ c ∈ t.columns, ∀ d ∈ c.default, d.HasShortInteger) ∧
      (∃ text, ((Session.generateTypescript r).run {}).1 = .ok text) ∧
      (∃ text, ((Session.generateDrop r).run {}).1 = .ok text) ∧
      (∃ text, ((Session.generateSql r).run {}).1 = .ok text) := by
  intro r
  have hr : r = after { guardEnumTypes := true } _ := Session.performAll_run_fst {} _ _
  have htables : r.tables = [Sample.parcels, Sample.letters] := by
    rw [hr]
    decide +kernel
  have hnames : ∀ t ∈ r.tables, ∀ c ∈ t.columns, c.nameText?.isSome = true := by
    rw [htables]
    decide
  have hintegers : ∀ t ∈ r.tables, ∀ c ∈ t.columns, ∀ d ∈ c.default, d.HasShortInteger := by
    rw [htables]
    decide +kernel
  have hclean : ¬ r.WritesNul := by
    rw [hr]
    decide +kernel
  obtain ⟨htypescript, hdrop, hsql, -, -⟩ := after_generates _ _ _ {} hnames hintegers
  exact ⟨htables, hnames, hintegers, htypescript, hdrop, hsql.mpr hclean⟩

/-- It fails if the state with the null character is declared first. -/
example :
    ((Session.generateSql (after {} [.addTable Sample.letters, .addTable Sample.parcels])).run
      {}).1 = .error (.sql .nulInLiteral) := by
  decide +kernel

end Registry

end TableSchema
