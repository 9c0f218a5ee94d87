import TableSchema.Proofs.Occurrences
import TableSchema.Proofs.Sql.Guarded
import TableSchema.Proofs.TypeScript.Members

/-!
# The values of an enumeration in both languages

An enumeration is declared in SQL by string constants and in TypeScript by strings of JSON, each
with escapes of its own. Both declarations are read back to the values of the enumeration in their
order, so a program and its database agree about them.
-/

namespace TableSchema.EnumType

open Text

variable {e : EnumType}

/-- Members with names of their own are found by their names. -/
theorem lookupFirst_pascalCase (h : e.memberNames.Nodup) {v : String} (hv : v ∈ e.values) :
    lookupFirst (pascalCase v) (e.values.map fun v => (pascalCase v, v)) = some v := by
  obtain ⟨u, hu⟩ := exists_lookupFirst
    (List.mem_map_of_mem (f := fun v => (pascalCase v, v)) hv)
  obtain ⟨v', hv', heq⟩ := List.mem_map.mp (mem_of_lookupFirst hu)
  obtain ⟨hname, rfl⟩ := Prod.mk.injEq .. ▸ heq
  rw [hu, List.inj_on_of_nodup_map h hv' hv hname]

/-- The values of an enumeration are read back in their order from the statement that creates it
and, each under its name in Pascal case, from its declaration in TypeScript. A guard around the
statement does not alter it. -/
theorem declared_values_eq (w : TypeScript.WideLetters) (s : Settings) (e : EnumType)
    (hname : TypeScript.HasWord e.name.toList)
    (hvalues : ∀ v ∈ e.values, TypeScript.HasWord v.toList ∧ IsNulFree v)
    (hdistinct : e.memberNames.Nodup) :
    (∃ statement,
        (Sql.Statement.createEnum e).text { s with guardEnumTypes := false } = .ok statement ∧
        Sql.readEnumValues (s.policy.name e.name) statement = some e.values ∧
        ∀ text, (Sql.Statement.createEnum e).text s = .ok text →
          statement.toList <:+: text.toList) ∧
      ∃ members,
        TypeScript.readEnum w (TypeScript.enumDeclaration s e) =
          some (e.typescriptName, members) ∧
        members = e.values.map (fun v => (pascalCase v, v)) ∧
        ∀ v ∈ e.values, lookupFirst (pascalCase v) members = some v := by
  constructor
  · obtain ⟨statement, hstatement⟩ : ∃ statement,
        (Sql.Statement.createEnum e).text { s with guardEnumTypes := false } = .ok statement :=
      Sql.exists_createEnum_text_iff.mpr
        ⟨fun hguard => absurd hguard (by simp), fun v hv => (hvalues v hv).2⟩
    refine ⟨statement, hstatement, ?_, fun text htext => Sql.infix_of_text hstatement htext⟩
    exact Sql.readEnumValues_eq e.values_ne_nil (Sql.toList_of_createEnum_text hstatement)
  · refine ⟨_, TypeScript.readEnum_enumDeclaration w s hname fun v hv => (hvalues v hv).1, rfl, ?_⟩
    intro v hv
    exact lookupFirst_pascalCase hdistinct hv

end TableSchema.EnumType

namespace TableSchema.Sample

/-- Values with quotes, a backslash, a line break, marks of lists and a character beyond 16 bits. -/
def snippet : EnumType :=
  ⟨"snippet", ["it's, \"so\"", "a\\b\nc,", "1 😀", "x');"], by decide, by decide⟩

end TableSchema.Sample

namespace TableSchema.EnumType

theorem snippet_declared_values_eq :
    let s : Settings := { quoteIdentifiers := true, guardEnumTypes := true }
    let wide : TypeScript.WideLetters := ⟨fun _ => false, fun _ => false⟩
    (TypeScript.HasWord Sample.snippet.name.toList ∧
      (∀ v ∈ Sample.snippet.values, TypeScript.HasWord v.toList ∧ IsNulFree v) ∧
      Sample.snippet.memberNames.Nodup) ∧
      (∃ statement,
        (Sql.Statement.createEnum Sample.snippet).text { s with guardEnumTypes := false } =
          .ok statement ∧
        Sql.readEnumValues (.identifier "snippet") statement = some Sample.snippet.values) ∧
      ∃ members,
        TypeScript.readEnum wide (TypeScript.enumDeclaration s Sample.snippet) =
          some ("Snippet", members) ∧
        members.map Prod.fst = ["ItSSo", "ABC", "_1", "X"] ∧
        lookupFirst "_1" members = some "1 😀" := by
  intro s wide
  have hname : TypeScript.HasWord Sample.snippet.name.toList := by decide +kernel
  have hvalues : ∀ v ∈ Sample.snippet.values, TypeScript.HasWord v.toList ∧ IsNulFree v := by
    decide +kernel
  have hdistinct : Sample.snippet.memberNames.Nodup := by decide
  obtain ⟨⟨statement, hstatement, hread, -⟩, members, hmembers, rfl, hlookup⟩ :=
    declared_values_eq wide s Sample.snippet hname hvalues hdistinct
  refine ⟨⟨hname, hvalues, hdistinct⟩, ⟨statement, hstatement, hread⟩, _, hmembers, by decide, ?_⟩
  exact hlookup "1 😀" (by decide)

end TableSchema.EnumType
