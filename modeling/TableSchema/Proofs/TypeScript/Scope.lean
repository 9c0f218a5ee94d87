import TableSchema.Proofs.Registry.Enumerations

/-!
# The scope of declared names

In the declarations of a coherent schema no name is declared twice, no enumeration has two members
of one name, and every column of an enumeration leads to one declaration: that of the enumeration.
-/

namespace TableSchema

open Validation

namespace TypeScript

/-- What a declared name belongs to. -/
def Declaration.owner : Declaration → Owner
  | .enumeration e => .enumeration e.name
  | .record t => .table t.name

variable {ts : List Table} {e : EnumType} {d : Declaration}

/-- An enumeration that is declared is the first of its name in some table. -/
theorem exists_enumTypes_of_mem_collectEnums (he : e ∈ collectEnums ts) :
    ∃ t ∈ ts, e ∈ t.enumTypes :=
  List.mem_flatMap.mp (List.mem_of_find?_eq_some (mem_firstsBy.mp he))

theorem declares_of_mem_outline (hd : d ∈ outline ts) : ∃ t ∈ ts, t.Declares d.name d.owner := by
  rw [outline, List.mem_append, List.mem_map, List.mem_map] at hd
  rcases hd with ⟨e, he, rfl⟩ | ⟨t, ht, rfl⟩
  · obtain ⟨t, ht, het⟩ := exists_enumTypes_of_mem_collectEnums he
    exact ⟨t, ht, Or.inr ⟨e, List.mem_of_find?_eq_some (mem_firstsBy.mp het), rfl, rfl⟩⟩
  · exact ⟨t, ht, Or.inl ⟨rfl, rfl⟩⟩

theorem owners_nodup (hn : (ts.map (·.name)).Nodup) :
    ((outline ts).map Declaration.owner).Nodup := by
  have henums : ((collectEnums ts).map fun e => Owner.enumeration e.name).Nodup := by
    have h := (nodup_map_firstsBy (·.name) (ts.flatMap (·.enumTypes))).map
      (fun _ _ h => Owner.enumeration.inj h)
    rwa [List.map_map] at h
  have htables : (ts.map fun t => Owner.table t.name).Nodup := by
    have h := hn.map (fun _ _ h => Owner.table.inj h)
    rwa [List.map_map] at h
  rw [outline, List.map_append, List.map_map, List.map_map, List.nodup_append']
  refine ⟨henums, htables, ?_⟩
  intro o ho ho'
  obtain ⟨e, -, rfl⟩ := List.mem_map.mp ho
  obtain ⟨t, -, ht⟩ := List.mem_map.mp ho'
  cases ht

/-- Where names have single owners, a name is declared for one owner only, and so once. -/
theorem names_nodup (hc : IsCoherent ts) : ((outline ts).map Declaration.name).Nodup := by
  have howners := owners_nodup hc.names_nodup
  refine List.Nodup.map_on ?_ (List.Nodup.of_map _ howners)
  intro d hd d' hd' hname
  obtain ⟨t, ht, hdt⟩ := declares_of_mem_outline hd
  obtain ⟨u, hu, hdu⟩ := declares_of_mem_outline hd'
  rw [hname] at hdt
  exact List.inj_on_of_nodup_map howners hd hd' (hc.single_owners t ht u hu _ _ _ hdt hdu)

theorem memberNames_nodup (hc : IsCoherent ts) (he : .enumeration e ∈ outline ts) :
    e.memberNames.Nodup := by
  obtain ⟨t, ht, het⟩ := exists_enumTypes_of_mem_collectEnums (enumeration_mem_outline.mp he)
  exact (hc.tables_wellFormed t ht).members_nodup e.name e (mem_firstsBy.mp het)

/-- Every enumeration of a column is declared, perhaps by a column before and with other values. -/
theorem exists_declaration_of_mem_columnEnums {t : Table} (ht : t ∈ ts)
    (he : e ∈ t.columnEnums) : ∃ d, .enumeration d ∈ outline ts ∧ d.name = e.name := by
  have hall : e.name ∈ (collectEnums ts).map (·.name) := by
    rw [Registry.collectEnums_eq_firstEnums, Registry.firstEnums, map_firstsBy, mem_firsts]
    exact List.mem_map_of_mem (List.mem_flatMap.mpr ⟨t, ht, he⟩)
  obtain ⟨first, hfirst, hname⟩ := List.mem_map.mp hall
  exact ⟨first, enumeration_mem_outline.mpr hfirst, hname⟩

/-- The type of a column of an enumeration names the enumeration's declaration and no other. -/
theorem exists_unique_declaration (hc : IsCoherent ts) {t : Table} (ht : t ∈ ts) {c : Column}
    (hcol : c ∈ t.columns) (htype : c.type = .enumeration e) :
    ∃ d, d.name = e.name ∧ .enumeration d ∈ outline ts ∧
      ∀ d' ∈ outline ts, d'.name = c.type.typescriptName ↔ d' = .enumeration d := by
  have he : e ∈ t.columnEnums := List.mem_filterMap.mpr ⟨c, hcol, by rw [htype]; rfl⟩
  obtain ⟨d, hd, hname⟩ := exists_declaration_of_mem_columnEnums ht he
  have hsame : (Declaration.enumeration d).name = c.type.typescriptName := by
    rw [htype]
    exact congrArg Text.pascalCase hname
  refine ⟨d, hname, hd, fun d' hd' => ⟨fun h => ?_, fun h => h ▸ hsame⟩⟩
  exact List.inj_on_of_nodup_map (names_nodup hc) hd' hd (h.trans hsame.symm)

end TypeScript

namespace Registry

open TypeScript

/-- After any operations the declarations are well scoped: their names are distinct, and so are the
members of each enumeration. The field of a column of an enumeration is typed by a name that stands
for one declaration, which declares the enumeration of that name. -/
theorem after_declarations_wellScoped (s : Settings) (ops : List Operation)
    (before now : Log.Trace) :
    let r := ((Session.performAll { settings := s } ops).run before).1
    let declared := outline r.tables
    ((Session.generateTypescript r).run now).1 =
        ((declared.mapM (Declaration.text r.settings)).map
          (layout r.settings (collectEnums r.tables).length)).mapError .typescript ∧
      (declared.map Declaration.name).Nodup ∧
      (∀ e, .enumeration e ∈ declared → e.memberNames.Nodup) ∧
      ∀ t ∈ r.tables, ∀ c ∈ t.columns, ∀ e, c.type = .enumeration e →
        (∃ d, d.name = e.name ∧ .enumeration d ∈ declared ∧
          ∀ d' ∈ declared, d'.name = c.type.typescriptName ↔ d' = .enumeration d) ∧
        fieldLine r.settings c = (fieldName c).map (fieldText r.settings c) := by
  intro r declared
  have hr : r.IsSound := isSound_performAll s ops before
  refine ⟨?_, names_nodup hr.coherent, fun e => memberNames_nodup hr.coherent,
    fun t ht c hc e he => ⟨exists_unique_declaration hr.coherent ht hc he, fieldLine_eq _ c⟩⟩
  rw [Session.generateTypescript_run_fst now hr.issues_eq_nil, declarations_eq]

end Registry

end TableSchema
