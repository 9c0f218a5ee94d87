import TableSchema.Proofs.Outcomes
import TableSchema.TypeScript

/-!
# The declarations of an output

The output is laid out from one text for each declaration: the enumerations that the tables use,
then the record types of the tables. A field of a record type names the type of its column.
-/

namespace TableSchema.TypeScript

/-- What is declared: an enumeration, or the record type of a table. -/
inductive Declaration where
  | enumeration (type : EnumType)
  | record (table : Table)
deriving DecidableEq, Repr

namespace Declaration

/-- The name that is declared. -/
def name : Declaration → String
  | .enumeration e => e.typescriptName
  | .record t => t.typeName

/-- The enumeration, if one is declared. -/
def enum? : Declaration → Option EnumType
  | .enumeration e => some e
  | .record _ => none

/-- The text of the declaration. -/
def text (s : Settings) : Declaration → Except Fault String
  | .enumeration e => .ok (enumDeclaration s e)
  | .record t => recordDeclaration s t

end Declaration

/-- All declarations for the tables. -/
def outline (ts : List Table) : List Declaration :=
  (collectEnums ts).map .enumeration ++ ts.map .record

/-- The output made of the texts of its declarations, where so many declare enumerations. -/
def layout (s : Settings) (enums : Nat) (parts : List String) : String :=
  s.wrap (banner s) (Text.joinBlocks
    ["\n\n".intercalate (parts.take enums), "\n\n".intercalate (parts.drop enums)] "\n\n")

variable {s : Settings} {ts : List Table}

theorem filterMap_enum?_outline : (outline ts).filterMap Declaration.enum? = collectEnums ts := by
  rw [outline, List.filterMap_append, List.filterMap_map, List.filterMap_map]
  simp [Function.comp_def, Declaration.enum?]

theorem enumeration_mem_outline {e : EnumType} :
    .enumeration e ∈ outline ts ↔ e ∈ collectEnums ts := by
  simp [outline]

/-- The output holds the texts of its declarations in their order. -/
theorem declarations_eq (s : Settings) (ts : List Table) :
    declarations s ts = ((outline ts).mapM (Declaration.text s)).map
      (layout s (collectEnums ts).length) := by
  have henums : ((collectEnums ts).map Declaration.enumeration).mapM (Declaration.text s) =
      .ok ((collectEnums ts).map (enumDeclaration s)) := by
    rw [List.mapM_map]
    exact mapM_eq_ok_map fun e _ => rfl
  rw [outline, List.mapM_append, henums, List.mapM_map, declarations]
  have hrecords : ts.mapM (Declaration.text s ∘ .record) = ts.mapM (recordDeclaration s) := rfl
  rw [hrecords]
  cases ts.mapM (recordDeclaration s) with
  | error f => rfl
  | ok records => simp [Except.map, bind, Except.bind, pure, Except.pure, layout]

/-- What stands in a field's line between name and type, and what after the type. -/
def fieldMarks (s : Settings) (c : Column) : String × String :=
  if !c.nullable then (": ", ";")
  else if s.showsUnions then (": ", " | null;")
  else ("?: ", ";")

/-- The line of a field with this name for the column. -/
def fieldText (s : Settings) (c : Column) (name : String) : String :=
  s.typescriptIndentText ++
    (name ++ (fieldMarks s c).1 ++ c.type.typescriptName ++ (fieldMarks s c).2)

/-- A field's line holds the name of the field and the type of the column. -/
theorem fieldLine_eq (s : Settings) (c : Column) :
    fieldLine s c = (fieldName c).map (fieldText s c) := by
  unfold fieldLine fieldText fieldMarks
  cases fieldName c with
  | error f => rfl
  | ok name =>
      cases c.nullable
      · simp [Except.map, bind, Except.bind, pure, Except.pure]
      · cases s.showsUnions <;> simp [Except.map, bind, Except.bind, pure, Except.pure]

/-- The declaration of a record type whose fields have these names. -/
def recordText (s : Settings) (t : Table) (names : List String) : String :=
  "export type " ++ t.typeName ++ " = \x7b\n" ++
    "\n".intercalate (List.zipWith (fieldText s) t.columns names) ++ "\n\x7d;"

theorem fieldName_eq {c : Column} {name : String} (h : c.name = .text name) :
    fieldName c = .ok (Text.camelCase name) := by
  rw [fieldName, Column.nameText?, h]

/-- The fields of a record type are the columns under their names in camel case. -/
theorem recordDeclaration_eq (s : Settings) {t : Table} {names : List String}
    (h : t.columnNames = names.map .text) :
    recordDeclaration s t = .ok (recordText s t (names.map Text.camelCase)) := by
  have hlines : t.columns.mapM (fieldLine s) =
      .ok (List.zipWith (fieldText s) t.columns (names.map Text.camelCase)) := by
    rw [Table.columnNames] at h
    generalize t.columns = cs at h
    induction cs generalizing names with
    | nil =>
        obtain rfl : names = [] := by simpa using h
        rfl
    | cons c cs ih =>
        obtain ⟨n, ns, rfl, hn, hns⟩ := List.map_eq_cons_iff.mp h.symm
        rw [List.mapM_cons, ih hns.symm, fieldLine_eq, fieldName_eq hn.symm]
        rfl
  rw [recordDeclaration, hlines]
  rfl

theorem exists_recordDeclaration_iff {t : Table} :
    (∃ text, recordDeclaration s t = .ok text) ↔
      ∀ c ∈ t.columns, c.nameText?.isSome = true := by
  have hmap : recordDeclaration s t = (t.columns.mapM (fieldLine s)).map fun fields =>
      "export type " ++ t.typeName ++ " = \x7b\n" ++ "\n".intercalate fields ++ "\n\x7d;" := rfl
  have hfield (c : Column) :
      (∃ line, fieldLine s c = .ok line) ↔ c.nameText?.isSome = true := by
    rw [fieldLine_eq, fieldName]
    cases c.nameText? <;> simp [Except.map]
  calc
    (∃ text, recordDeclaration s t = .ok text)
      ↔ ∃ lines, t.columns.mapM (fieldLine s) = .ok lines := by simp [hmap, map_eq_ok_iff]
    _ ↔ ∀ c ∈ t.columns, c.nameText?.isSome = true := by simp only [exists_mapM_eq_ok_iff, hfield]

/-- Declarations can be written if and only if every column has a text as its name. -/
theorem exists_declarations_iff :
    (∃ text, declarations s ts = .ok text) ↔
      ∀ t ∈ ts, ∀ c ∈ t.columns, c.nameText?.isSome = true := by
  have hmap : declarations s ts = (ts.mapM (recordDeclaration s)).map fun records =>
      s.wrap (banner s) (Text.joinBlocks ["\n\n".intercalate
        ((collectEnums ts).map (enumDeclaration s)), "\n\n".intercalate records] "\n\n") := rfl
  calc
    (∃ text, declarations s ts = .ok text)
      ↔ ∃ records, ts.mapM (recordDeclaration s) = .ok records := by simp [hmap, map_eq_ok_iff]
    _ ↔ ∀ t ∈ ts, ∀ c ∈ t.columns, c.nameText?.isSome = true := by
        simp only [exists_mapM_eq_ok_iff, exists_recordDeclaration_iff]

end TableSchema.TypeScript
