import TableSchema.Proofs.Sql.Spelling
import TableSchema.Proofs.Sql.Texts

/-!
# Which scripts can be written

A drop script can always be written. A create script can be written if and only if no value of an
enumeration and no text that is a default holds the character of code zero, no integer that is a
default is too long, and every column has a text as its name. Where the creation of enumerations is
guarded, their names are written as string constants too and are bound by the same rule.
-/

namespace TableSchema

/-- The text does not hold the character of code zero. -/
def IsNulFree (s : String) : Prop :=
  '\x00' ∉ s.toList

instance (s : String) : Decidable (IsNulFree s) :=
  inferInstanceAs (Decidable (¬ _))

/-- The integer has no more digits than can be written. -/
def IsShort (n : Int) : Prop :=
  n.natAbs < Nat.pow 10 Number.maxDigits

instance (n : Int) : Decidable (IsShort n) :=
  inferInstanceAs (Decidable (_ < _))

/-- The default can be written: an integer within the limit, a text without a null character. -/
def ColumnDefault.IsWritable : ColumnDefault → Prop
  | .literal (.int n) => IsShort n
  | .literal (.text s) => IsNulFree s
  | .literal (.bool _) | .literal (.float _) | .expression _ => True

instance (d : ColumnDefault) : Decidable d.IsWritable := by
  unfold ColumnDefault.IsWritable
  split <;> infer_instance

/-- The definition of the column can be written. -/
def Column.IsWritable (c : Column) : Prop :=
  c.nameText?.isSome = true ∧ ∀ d ∈ c.default, d.IsWritable

instance (c : Column) : Decidable c.IsWritable :=
  inferInstanceAs (Decidable (_ ∧ _))

/-- The creation of the enumeration can be written under the settings. -/
def EnumType.IsWritable (s : Settings) (t : EnumType) : Prop :=
  (s.guardEnumTypes = true → IsNulFree t.name) ∧ ∀ v ∈ t.values, IsNulFree v

instance (s : Settings) (t : EnumType) : Decidable (t.IsWritable s) :=
  inferInstanceAs (Decidable (_ ∧ _))

namespace Sql

/-- The enumerations and the columns of a create script can be written. -/
structure CanBeWritten (s : Settings) (tables : List Table) (types : CustomTypes) : Prop where
  types : ∀ e ∈ types, e.2.IsWritable s
  columns : ∀ t ∈ tables, ∀ c ∈ t.columns, c.IsWritable

open Fragment

/-- The fragment can be written. -/
def Fragment.IsWritable : Fragment → Prop
  | .verbatim _ | .identifier _ => True
  | .literal s => IsNulFree s

/-- All of the fragments can be written. -/
def AreWritable (fs : Fragments) : Prop :=
  ∀ f ∈ fs, f.IsWritable

section Fragments

variable {f : Fragment} {fs gs : Fragments}

@[simp] theorem isWritable_verbatim (s : String) : (verbatim s).IsWritable := trivial

@[simp] theorem isWritable_identifier (s : String) : (identifier s).IsWritable := trivial

@[simp] theorem isWritable_literal (s : String) : (literal s).IsWritable ↔ IsNulFree s := Iff.rfl

@[simp] theorem isWritable_name (p : IdentifierPolicy) (s : String) : (p.name s).IsWritable := by
  cases p <;> exact trivial

@[simp] theorem areWritable_nil : AreWritable [] := by
  simp [AreWritable]

@[simp] theorem areWritable_cons :
    AreWritable (f :: fs) ↔ f.IsWritable ∧ AreWritable fs :=
  List.forall_mem_cons

@[simp] theorem areWritable_append :
    AreWritable (fs ++ gs) ↔ AreWritable fs ∧ AreWritable gs :=
  List.forall_mem_append

/-- Separators do not matter. -/
@[simp] theorem areWritable_joinWith (separator : String) (parts : List Fragments) :
    AreWritable (joinWith separator parts) ↔ ∀ p ∈ parts, AreWritable p := by
  rw [joinWith, List.intercalate]
  induction parts with
  | nil => simp
  | cons p parts ih =>
      cases parts with
      | nil => simp
      | cons q parts =>
          rw [List.intersperse_cons_cons, List.flatten_cons, List.flatten_cons, areWritable_append,
            areWritable_append, ih, List.forall_mem_cons]
          simp

/-- Names are written bare or as identifiers. -/
theorem areWritable_names (p : IdentifierPolicy) (ss : List String) : AreWritable (p.names ss) := by
  rw [IdentifierPolicy.names, areWritable_joinWith]
  intro part hpart
  obtain ⟨s, -, rfl⟩ := List.mem_map.mp hpart
  simp

theorem exists_text_iff : (∃ text, f.text = .ok text) ↔ f.IsWritable := by
  cases f with
  | verbatim s => simp [Fragment.text]
  | identifier s => simp [Fragment.text]
  | literal s => by_cases h : '\x00' ∈ s.toList <;> simp [Fragment.text, IsNulFree, h]

/-- Fragments have a text together if each of them has one. -/
theorem exists_render_iff : (∃ text, render fs = .ok text) ↔ AreWritable fs := by
  have hparts : (∃ text, render fs = .ok text) ↔ ∃ texts, fs.mapM Fragment.text = .ok texts := by
    simp [render_eq, map_eq_ok_iff]
  rw [hparts, exists_mapM_eq_ok_iff]
  exact forall₂_congr fun f _ => exists_text_iff

end Fragments

/-! ## Statements -/

section Statements

variable {s : Settings} {p : IdentifierPolicy}

theorem exists_statement_text_iff {st : Statement} :
    (∃ text, st.text s = .ok text) ↔ ∃ fs, st.compose s = .ok fs ∧ AreWritable fs := by
  rw [Statement.text]
  cases h : st.compose s with
  | error f => simp [bind, Except.bind]
  | ok fs => simpa [bind, Except.bind] using exists_render_iff

theorem areWritable_createEnum (name : String) (values : List String) :
    AreWritable (createEnum (p.name name) values) ↔ ∀ v ∈ values, IsNulFree v := by
  simp [createEnum, enumValues]

theorem areWritable_enumDefinition (t : EnumType) :
    AreWritable (enumDefinition s t) ↔ t.IsWritable s := by
  unfold enumDefinition EnumType.IsWritable
  by_cases h : s.guardEnumTypes = true
  · simp [h, createEnumGuarded, areWritable_createEnum]
  · simp [h, areWritable_createEnum]

theorem exists_integerText_iff {n : Int} :
    (∃ text, Number.integerText n = .ok text) ↔ IsShort n := by
  rw [Number.integerText, IsShort, ← Nat.not_le]
  split
  · rename_i h
    exact ⟨fun ⟨_, htext⟩ => (nomatch htext), fun hn => absurd h hn⟩
  · rename_i h
    exact ⟨fun _ => h, fun _ => ⟨_, rfl⟩⟩

theorem exists_defaultExpression_iff {d : ColumnDefault} :
    (∃ f, defaultExpression d = .ok f ∧ f.IsWritable) ↔ d.IsWritable := by
  cases d with
  | expression e => exact ⟨fun _ => trivial, fun _ => ⟨verbatim e, rfl, trivial⟩⟩
  | literal v =>
      cases v with
      | bool b => exact ⟨fun _ => trivial, fun _ => ⟨verbatim _, rfl, trivial⟩⟩
      | float x => exact ⟨fun _ => trivial, fun _ => ⟨verbatim _, rfl, trivial⟩⟩
      | text v =>
          have htext : defaultExpression (.literal (.text v)) = .ok (literal v) := rfl
          simp [htext, ColumnDefault.IsWritable]
      | int n =>
          rw [ColumnDefault.IsWritable, ← exists_integerText_iff]
          unfold defaultExpression
          cases h : Number.integerText n <;> simp [h]

theorem exists_defaultClause_iff {d : Option ColumnDefault} :
    (∃ fs, defaultClause d = .ok fs ∧ AreWritable fs) ↔ ∀ e ∈ d, e.IsWritable := by
  cases d with
  | none =>
      have hnone : defaultClause none = .ok [] := rfl
      simp [hnone]
  | some d =>
      have hmap : defaultClause (some d) =
          (defaultExpression d).map fun f => [verbatim " DEFAULT ", f] := rfl
      simp [hmap, map_eq_ok_iff, ← exists_defaultExpression_iff]

/-- The line of a column of this name up to its default. -/
def columnFront (p : IdentifierPolicy) (n : String) (c : Column) : Fragments :=
  [p.name n, verbatim " ", typeName p c.type] ++ if c.nullable then [] else [verbatim " NOT NULL"]

theorem areWritable_columnFront (n : String) (c : Column) : AreWritable (columnFront p n c) := by
  obtain ⟨name, type, nullable, default⟩ := c
  cases type <;> cases nullable <;> simp [columnFront, typeName]

/-- The clause of the default ends the line of a column that has a text as its name. -/
theorem columnDefinition_eq_map {c : Column} {n : String} (h : c.nameText? = some n) :
    columnDefinition p c = (defaultClause c.default).map (columnFront p n c ++ ·) := by
  rw [columnDefinition, Column.nameText?_eq_some_iff.mp h]
  rfl

/-- A column can be defined if its name is a text and its default can be written. -/
theorem exists_columnDefinition_iff {c : Column} :
    (∃ fs, columnDefinition p c = .ok fs ∧ AreWritable fs) ↔ c.IsWritable := by
  rw [Column.IsWritable, ← exists_defaultClause_iff]
  cases hname : c.nameText? with
  | some n => simp [columnDefinition_eq_map hname, map_eq_ok_iff, areWritable_columnFront]
  | none =>
      obtain ⟨name, type, nullable, default⟩ := c
      cases name with
      | text n => cases hname
      | _ => simp [columnDefinition, columnName, bind, Except.bind]

/-- Constraints hold no string constants. -/
theorem areWritable_constraintDefinitions (p : IdentifierPolicy) (t : Table) :
    ∀ fs ∈ constraintDefinitions p t, AreWritable fs := by
  intro fs hfs
  rcases List.mem_append.mp hfs with hkeys | hcheck
  · rcases List.mem_append.mp hkeys with hprimary | hforeign
    · split at hprimary
      · cases hprimary
      · obtain rfl := List.mem_singleton.mp hprimary
        simp [primaryKey, areWritable_names]
    · obtain ⟨k, -, rfl⟩ := List.mem_map.mp hforeign
      simp [foreignKey, areWritable_names]
  · obtain ⟨c, -, rfl⟩ := List.mem_map.mp hcheck
    simp [check]

theorem exists_tableDefinition_iff {t : Table} :
    (∃ fs, tableDefinition s t = .ok fs ∧ AreWritable fs) ↔ ∀ c ∈ t.columns, c.IsWritable := by
  have hmap : tableDefinition s t = (t.columns.mapM (columnDefinition s.policy)).map fun parts =>
      [verbatim "CREATE TABLE IF NOT EXISTS ", s.policy.name t.name, verbatim " (\n"] ++
        (joinWith ",\n" (parts.map (verbatim s.sqlIndentText :: ·)) ++
          (if (constraintDefinitions s.policy t).isEmpty then []
          else verbatim ",\n\n" :: joinWith ",\n"
            ((constraintDefinitions s.policy t).map (verbatim s.sqlIndentText :: ·)))) ++
        [verbatim "\n);"] := rfl
  have hconstraints : AreWritable (if constraintDefinitions s.policy t = [] then []
      else verbatim ",\n\n" :: joinWith ",\n"
        ((constraintDefinitions s.policy t).map (verbatim s.sqlIndentText :: ·))) := by
    split
    · exact areWritable_nil
    · simpa using areWritable_constraintDefinitions s.policy t
  calc
    (∃ fs, tableDefinition s t = .ok fs ∧ AreWritable fs)
      ↔ ∃ parts, t.columns.mapM (columnDefinition s.policy) = .ok parts ∧
          ∀ part ∈ parts, AreWritable part := by
        simp [hmap, map_eq_ok_iff, hconstraints]
    _ ↔ ∀ c ∈ t.columns, c.IsWritable := by
        rw [exists_mapM_iff]
        exact forall₂_congr fun c _ => exists_columnDefinition_iff

end Statements

/-! ## Scripts -/

section Scripts

variable {s : Settings} {tables : List Table} {extensions : List String} {types : CustomTypes}

theorem exists_texts_iff {sts : List Statement} :
    (∃ parts, texts s sts = .ok parts) ↔ ∀ st ∈ sts, ∃ text, st.text s = .ok text :=
  exists_mapM_eq_ok_iff

/-- A create script can be written if and only if its enumerations and its columns can. -/
theorem exists_createScript_iff :
    (∃ text, createScript s tables extensions types = .ok text) ↔
      CanBeWritten s tables types := by
  have hextension (n : String) : ∃ text, (Statement.createExtension n).text s = .ok text :=
    exists_statement_text_iff.mpr ⟨_, rfl, by simp [createExtension]⟩
  have hname (t : EnumType) :
      (∃ text, (Statement.createEnum t).text s = .ok text) ↔ t.IsWritable s := by
    simp [exists_statement_text_iff, Statement.compose, areWritable_enumDefinition]
  have htable (t : Table) : (∃ text, (Statement.createTable t).text s = .ok text) ↔
      ∀ c ∈ t.columns, c.IsWritable := by
    rw [exists_statement_text_iff]
    exact exists_tableDefinition_iff
  have hscript : (∃ text, createScript s tables extensions types = .ok text) ↔
      ∃ parts, texts s (createStatements tables extensions types) = .ok parts := by
    simp [createScript_eq, map_eq_ok_iff]
  rw [hscript, exists_texts_iff, createStatements, List.forall_mem_append,
    List.forall_mem_append, extensionStatements, enumStatements, tableStatements,
    List.forall_mem_map, List.forall_mem_map, List.forall_mem_map]
  simp only [hextension, hname, htable, implies_true, true_and]
  exact ⟨fun h => ⟨h.1, h.2⟩, fun h => ⟨h.types, h.columns⟩⟩

/-- A drop script holds names only. -/
theorem exists_dropScript (s : Settings) (tables : List Table)
    (extensions typeNames : List String) :
    ∃ text, dropScript s tables extensions typeNames = .ok text := by
  have hmap : dropScript s tables extensions typeNames =
      (texts s (dropStatements tables extensions typeNames)).map fun sts =>
        s.wrap (banner s) ("\n".intercalate sts) := rfl
  have htexts : ∃ parts, texts s (dropStatements tables extensions typeNames) = .ok parts := by
    rw [exists_texts_iff]
    intro st hst
    simp only [dropStatements, List.mem_append, List.mem_map] at hst
    rcases hst with (⟨t, -, rfl⟩ | ⟨n, -, rfl⟩) | ⟨n, -, rfl⟩
    · exact exists_statement_text_iff.mpr ⟨_, rfl, by simp [dropTable]⟩
    · exact exists_statement_text_iff.mpr ⟨_, rfl, by simp [dropType]⟩
    · exact exists_statement_text_iff.mpr ⟨_, rfl, by simp [dropExtension]⟩
  obtain ⟨parts, hparts⟩ := htexts
  exact ⟨_, hmap ▸ map_eq_ok_iff.mpr ⟨parts, hparts, rfl⟩⟩

end Scripts

end Sql

end TableSchema
