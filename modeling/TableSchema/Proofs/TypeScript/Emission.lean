import TableSchema.Proofs.Registry.Soundness
import TableSchema.Proofs.TypeScript.Declarations
import TableSchema.Proofs.TypeScript.Identifier

/-!
# The identifiers of an output

A declaration is written with identifiers that are made from names: of an enumeration and its
values, or of the columns of a table. The output is made of identifiers exactly if each of these
names has a letter or digit of ASCII or is an identifier itself; the other names are written as they
are, whatever they hold.
-/

namespace TableSchema

namespace TypeScript

/-- An enumeration written with identifiers for its name and its members. -/
def enumText (s : Settings) (e : EnumType) (identifiers : List String) : String :=
  "export enum " ++ identifiers.headD "" ++ " \x7b\n" ++
    "\n".intercalate (List.zipWith
      (fun i v => s.typescriptIndentText ++ i ++ " = " ++ Text.jsonString v ++ ",")
      identifiers.tail e.values) ++ "\n\x7d"

namespace Declaration

/-- The names of columns, enumerations and values that a declaration is made from. -/
def sourceNames : Declaration → List String
  | .enumeration e => e.name :: e.values
  | .record t => t.columns.filterMap (·.nameText?)

/-- The way in which a declaration makes an identifier from a name. -/
def identifier : Declaration → String → String
  | .enumeration _ => Text.pascalCase
  | .record _ => Text.camelCase

/-- A declaration written with these identifiers. -/
def textWith (s : Settings) (identifiers : List String) : Declaration → String
  | .enumeration e => enumText s e identifiers
  | .record t => recordText s t identifiers

end Declaration

variable {s : Settings} {d : Declaration}

theorem enumDeclaration_eq (s : Settings) (e : EnumType) :
    enumDeclaration s e = enumText s e (e.typescriptName :: e.memberNames) := by
  have hlines : e.values.map (memberLine s) = List.zipWith
      (fun i v => s.typescriptIndentText ++ i ++ " = " ++ Text.jsonString v ++ ",")
      e.memberNames e.values := by
    rw [EnumType.memberNames, List.zipWith_map_left, List.zipWith_self]
    rfl
  calc
    enumDeclaration s e
      = "export enum " ++ e.typescriptName ++ " \x7b\n" ++
          "\n".intercalate (e.values.map (memberLine s)) ++ "\n\x7d" := rfl
    _ = enumText s e (e.typescriptName :: e.memberNames) := by
        rw [hlines]
        rfl

theorem columnNames_eq_of_nameText? {t : Table}
    (h : ∀ c ∈ t.columns, c.nameText?.isSome = true) :
    t.columnNames = (t.columns.filterMap (·.nameText?)).map .text := by
  rw [Table.columnNames]
  generalize t.columns = cs at h
  induction cs with
  | nil => rfl
  | cons c cs ih =>
      obtain ⟨hc, hcs⟩ := List.forall_mem_cons.mp h
      obtain ⟨name, hname⟩ := Option.isSome_iff_exists.mp hc
      have htext : c.name = .text name := Column.nameText?_eq_some_iff.mp hname
      rw [List.map_cons, List.filterMap_cons_some hname, List.map_cons, ih hcs, htext]

/-- A declaration that has a text is written with the identifiers made from its names. -/
theorem eq_textWith_of_text {text : String} (h : d.text s = .ok text) :
    text = d.textWith s (d.sourceNames.map d.identifier) := by
  cases d with
  | enumeration e =>
      obtain rfl := Except.ok.inj h
      exact enumDeclaration_eq s e
  | record t =>
      have hnames := exists_recordDeclaration_iff.mp ⟨text, h⟩
      have hrecord := recordDeclaration_eq s (columnNames_eq_of_nameText? hnames)
      exact Except.ok.inj (h.symm.trans hrecord)

/-- Whatever it belongs to, a name gives an identifier if it has a letter or digit of ASCII. -/
theorem isIdentifier_identifier_iff (w : WideLetters) (d : Declaration) (n : String) :
    IsIdentifier w (d.identifier n).toList ↔ HasWord n.toList ∨ IsIdentifier w n.toList := by
  cases d with
  | enumeration e =>
      rw [Declaration.identifier, Text.pascalCase, String.toList_ofList]
      exact isCase_pascalChars.isIdentifier_iff w n.toList
  | record t =>
      rw [Declaration.identifier, Text.camelCase, String.toList_ofList]
      exact isCase_camelChars.isIdentifier_iff w n.toList

theorem isIdentifier_typeName (w : WideLetters) (t : Table) : IsIdentifier w t.typeName.toList := by
  have hok := t.typeName_ok
  unfold isTypeName at hok
  cases hchars : t.typeName.toList with
  | nil => simp [hchars] at hok
  | cons c cs =>
      simp only [hchars, Bool.and_eq_true, List.all_eq_true, Bool.or_eq_true] at hok
      obtain ⟨hc, hcs⟩ := hok
      refine isIdentifier_cons_iff.mpr ⟨begins_of_isTypeNameStart w hc, fun d hd => ?_⟩
      rcases hcs d hd with hstart | hdigit
      · exact continues_of_isTypeNameStart w hstart
      · exact continues_of_isDigit w hdigit

/-- Where the names of columns are texts, the output is laid out from declarations that are written
with the identifiers made from their names. -/
theorem declarations_eq_textWith (s : Settings) {ts : List Table}
    (h : ∀ t ∈ ts, ∀ c ∈ t.columns, c.nameText?.isSome = true) :
    declarations s ts = .ok (layout s (collectEnums ts).length
      ((outline ts).map fun d => d.textWith s (d.sourceNames.map d.identifier))) := by
  have htexts : (outline ts).mapM (Declaration.text s) =
      .ok ((outline ts).map fun d => d.textWith s (d.sourceNames.map d.identifier)) := by
    refine mapM_eq_ok_map fun d hd => ?_
    obtain ⟨text, htext⟩ : ∃ text, d.text s = .ok text := by
      cases d with
      | enumeration e => exact ⟨_, rfl⟩
      | record t =>
          have ht : t ∈ ts := by simpa [outline] using hd
          exact exists_recordDeclaration_iff.mpr (h t ht)
    rw [htext, eq_textWith_of_text htext]
  rw [declarations_eq, htexts]
  rfl

end TypeScript

namespace Sample

/-- Sizes of clothes, one of them without a letter or digit of ASCII. -/
def clothesSize : EnumType :=
  ⟨"clothes-size", ["x/l", "4k", "小"], by decide, by decide⟩

/-- Clothes in their sizes. -/
def clothes : Table where
  name := "clothes"
  typeName := "Clothes"
  columns := [⟨.text "id", .scalar .integer, false, none⟩,
    ⟨.text "2nd_size", .enumeration clothesSize, false, none⟩]
  primaryKeys := ["id"]
  foreignKeys := []
  constraints := []
  name_fits := by decide
  typeName_ok := by decide

/-- Comparisons by their signs. -/
def comparison : EnumType :=
  ⟨"comparison", ["<", ">"], by decide, by decide⟩

/-- Filters, each with a comparison. -/
def filters : Table where
  name := "filters"
  typeName := "Filter"
  columns := [⟨.text "id", .scalar .integer, false, none⟩,
    ⟨.text "test", .enumeration comparison, false, none⟩]
  primaryKeys := ["id"]
  foreignKeys := []
  constraints := []
  name_fits := by decide
  typeName_ok := by decide

end Sample

namespace Registry

open TypeScript

/-- After any operations, if the names of columns are texts, the declarations are written with
identifiers made from names. Such a form is an identifier exactly if its name has a letter or digit
of ASCII or is an identifier itself; the names of record types always are identifiers. -/
theorem after_identifiers_iff (w : WideLetters) (s : Settings) (ops : List Operation)
    (before now : Log.Trace)
    (hnames : ∀ t ∈ ((Session.performAll { settings := s } ops).run before).1.tables,
      ∀ c ∈ t.columns, c.nameText?.isSome = true) :
    let r := ((Session.performAll { settings := s } ops).run before).1
    let declared := outline r.tables
    ((Session.generateTypescript r).run now).1 =
        .ok (layout r.settings (collectEnums r.tables).length
          (declared.map fun d => d.textWith r.settings (d.sourceNames.map d.identifier))) ∧
      (∀ t, .record t ∈ declared → IsIdentifier w t.typeName.toList) ∧
      ∀ d ∈ declared, ∀ n ∈ d.sourceNames,
        IsIdentifier w (d.identifier n).toList ↔ HasWord n.toList ∨ IsIdentifier w n.toList := by
  intro r declared
  have hr : r.IsSound := isSound_performAll s ops before
  refine ⟨?_, fun t _ => isIdentifier_typeName w t,
    fun d _ n _ => isIdentifier_identifier_iff w d n⟩
  rw [Session.generateTypescript_run_fst now hr.issues_eq_nil, declarations_eq_textWith _ hnames]
  rfl

theorem clothes_identifiers :
    let r := ((Session.performAll { settings := {} } [.addTable Sample.clothes]).run {}).1
    let wide : WideLetters := ⟨(· == '小'), (· == '小')⟩
    (∀ t ∈ r.tables, ∀ c ∈ t.columns, c.nameText?.isSome = true) ∧
      .record Sample.clothes ∈ outline r.tables ∧
      IsIdentifier wide (Text.camelCase "2nd_size").toList ∧
      .enumeration Sample.clothesSize ∈ outline r.tables ∧
      ∀ v ∈ Sample.clothesSize.values, IsIdentifier wide (Text.pascalCase v).toList := by
  intro r wide
  have hr : r = Registry.after {} [.addTable Sample.clothes] := Session.performAll_run_fst {} _ _
  have hnames : ∀ t ∈ r.tables, ∀ c ∈ t.columns, c.nameText?.isSome = true := by
    rw [hr]
    decide
  have hrecord : .record Sample.clothes ∈ outline r.tables := by
    rw [hr]
    decide
  have henum : .enumeration Sample.clothesSize ∈ outline r.tables := by
    rw [hr]
    decide
  obtain ⟨-, -, hforms⟩ :=
    after_identifiers_iff wide {} [.addTable Sample.clothes] {} {} hnames
  refine ⟨hnames, hrecord, ?_, henum, fun v hv => ?_⟩
  · exact (hforms _ hrecord "2nd_size" (by decide)).mpr (by decide +kernel)
  · refine (hforms _ henum v (List.mem_cons_of_mem _ hv)).mpr ?_
    revert v
    decide +kernel

/-- A value made of signs alone becomes the name of a member as it is, which is no identifier, even
if every character outside ASCII counts as a letter. -/
theorem filters_members_not_identifiers :
    let r := ((Session.performAll { settings := { includeBanner := false } }
      [.addTable Sample.filters]).run {}).1
    .enumeration Sample.comparison ∈ outline r.tables ∧
      Sample.comparison.memberNames = ["<", ">"] ∧
      (∀ m ∈ Sample.comparison.memberNames,
        ¬ IsIdentifier ⟨fun _ => true, fun _ => true⟩ m.toList) ∧
      ((Session.generateTypescript r).run {}).1 = .ok
        ("export enum Comparison \x7b\n  < = \"<\",\n  > = \">\",\n\x7d\n\n" ++
          "export type Filter = \x7b\n  id: number;\n  test: Comparison;\n\x7d;\n") := by
  intro r
  have hr : r = Registry.after { includeBanner := false } [.addTable Sample.filters] :=
    Session.performAll_run_fst _ _ _
  refine ⟨?_, by decide, by decide, ?_⟩
  · rw [hr]
    decide
  · decide +kernel

end Registry

end TableSchema
