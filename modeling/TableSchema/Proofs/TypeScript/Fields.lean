import TableSchema.Proofs.Registry.Soundness
import TableSchema.Proofs.Text.Naming
import TableSchema.Proofs.TypeScript.Declarations

/-!
# The fields of a record type

Columns are told apart by their names as written, fields by the camel-case forms of these names. So
the fields of a registered table are distinct exactly if no two of its column names run together,
and they are distinct if the names are in snake case.
-/

namespace TableSchema

open Validation

namespace TypeScript

/-- Distinct names have distinct camel-case forms unless two of them run together. -/
theorem map_camelCase_nodup_iff {names : List String} (h : names.Nodup) :
    (names.map Text.camelCase).Nodup ↔ names.Pairwise fun m n => ¬ Text.RunTogether m n := by
  rw [List.Nodup, List.pairwise_map]
  constructor
  · intro hfields
    exact hfields.imp fun hmn hrun => hmn (Text.camelCase_eq_iff.mpr (Or.inr hrun))
  · intro hapart
    refine hapart.imp₂ (fun m n hrun hne heq => ?_) h
    rcases Text.camelCase_eq_iff.mp heq with hmn | hmn
    · exact hne hmn
    · exact hrun hmn

theorem map_camelCase_nodup_of_isSnakeCase {names : List String} (h : names.Nodup)
    (hsnake : ∀ n ∈ names, Text.IsSnakeCase n.toList) : (names.map Text.camelCase).Nodup :=
  List.Nodup.map_on (fun m hm n hn => Text.eq_of_camelCase_eq (hsnake m hm) (hsnake n hn)) h

end TypeScript

namespace Sample

/-- People, whose columns differ in little but run together to different characters. -/
def people : Table where
  name := "people"
  typeName := "Person"
  columns := [⟨.text "first_name", .scalar .text, false, none⟩,
    ⟨.text "firstname", .scalar .text, false, none⟩,
    ⟨.text "name_of_first", .scalar .text, false, none⟩]
  primaryKeys := ["first_name"]
  foreignKeys := []
  constraints := []
  name_fits := by decide
  typeName_ok := by decide

/-- Addresses of two lines, each under a name of its own. -/
def addresses : Table where
  name := "addresses"
  typeName := "Address"
  columns := [⟨.text "line_1", .scalar .text, false, none⟩,
    ⟨.text "line1", .scalar .text, true, none⟩]
  primaryKeys := ["line_1"]
  foreignKeys := []
  constraints := []
  name_fits := by decide
  typeName_ok := by decide

end Sample

namespace Registry

open TypeScript

/-- After any operations a table whose column names are texts is declared with their camel-case
forms as its fields. The fields are distinct exactly if no two of the names run together, and so
they are if the names are in snake case. -/
theorem after_fields_nodup_iff (s : Settings) (ops : List Operation) (before : Log.Trace)
    (t : Table) (names : List String)
    (ht : t ∈ ((Session.performAll { settings := s } ops).run before).1.tables)
    (hnames : t.columnNames = names.map .text) :
    recordDeclaration s t = .ok (recordText s t (names.map Text.camelCase)) ∧
      ((names.map Text.camelCase).Nodup ↔ names.Pairwise fun m n => ¬ Text.RunTogether m n) ∧
      ((∀ n ∈ names, Text.IsSnakeCase n.toList) → (names.map Text.camelCase).Nodup) := by
  have hr := isSound_performAll s ops before
  have hnodup := (hr.coherent.tables_wellFormed t ht).names_nodup hnames
  exact ⟨recordDeclaration_eq s hnames, map_camelCase_nodup_iff hnodup,
    map_camelCase_nodup_of_isSnakeCase hnodup⟩

theorem people_fields_nodup :
    Sample.people ∈ ((Session.performAll { settings := {} }
        [.addTable Sample.people]).run {}).1.tables ∧
      Sample.people.columnNames = ["first_name", "firstname", "name_of_first"].map .text ∧
      (["first_name", "firstname", "name_of_first"].map Text.camelCase).Nodup := by
  have ht : Sample.people ∈ ((Session.performAll { settings := {} }
      [.addTable Sample.people]).run {}).1.tables := by
    rw [Session.performAll_run_fst]
    decide
  have hnames : Sample.people.columnNames =
      ["first_name", "firstname", "name_of_first"].map .text := rfl
  obtain ⟨-, -, hsnake⟩ := after_fields_nodup_iff {} [.addTable Sample.people] {} _ _ ht hnames
  exact ⟨ht, hnames, hsnake (by decide)⟩

/-- A registered table may be declared with two fields of one name. -/
theorem addresses_fields_not_nodup :
    let r := ((Session.performAll { settings := { includeBanner := false } }
      [.addTable Sample.addresses]).run {}).1
    Sample.addresses ∈ r.tables ∧
      Sample.addresses.columnNames = ["line_1", "line1"].map .text ∧
      ¬ (["line_1", "line1"].map Text.camelCase).Nodup ∧
      ((Session.generateTypescript r).run {}).1 =
        .ok "export type Address = \x7b\n  line1: string;\n  line1?: string;\n\x7d;\n" := by
  intro r
  have ht : Sample.addresses ∈ r.tables := by
    simp only [r, Session.performAll_run_fst]
    decide
  refine ⟨ht, rfl, by decide, ?_⟩
  decide +kernel

end Registry

end TableSchema
