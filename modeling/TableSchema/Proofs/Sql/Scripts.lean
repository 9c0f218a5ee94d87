import TableSchema.Proofs.Registry.Soundness
import TableSchema.Proofs.Sql.Catalogue
import TableSchema.Proofs.Sql.Texts

/-!
# The scripts of a registry on a catalogue

The create script of a registry runs on the empty catalogue, since foreign keys lead to earlier
tables and the registered types are those of the columns. The drop script takes the same way back:
the last table goes first, and no table that is left refers to it.
-/

namespace TableSchema

open Validation

namespace Sql

theorem renderedType_eq_of_same (p : IdentifierPolicy) {a b : ValueType} (h : a.Same b) :
    renderedType p a = renderedType p b := by
  have hname : typeName p a = typeName p b := by
    cases a <;> cases b <;>
      simp_all [ValueType.Same, ValueType.identity, typeName, ValueType.sqlName,
        CharacterType.sqlName]
  rw [renderedType, renderedType, hname]

namespace Catalogue

variable {p : IdentifierPolicy} {extensions types : List String} {tables ts : List Table}
  {t : Table}

theorem notMem_of_nodup_split {names earlier later : List String} {n : String}
    (hn : names.Nodup) (hsplit : names = earlier ++ n :: later) : n ∉ earlier ++ later :=
  (List.nodup_cons.mp (List.nodup_middle.mp (hsplit ▸ hn))).1

theorem run_extensionStatements (hn : extensions.Nodup) :
    run p ⟨[], types, tables⟩ (extensionStatements extensions) =
      some ⟨extensions, types, tables⟩ := by
  refine run_map_of_concat (fun ns => ⟨ns, types, tables⟩) extensions ?_
  intro earlier n later hsplit
  have hnew := notMem_of_nodup_split hn hsplit
  exact execute_eq_some_iff.mpr ⟨fun h => hnew (List.mem_append_left later h), rfl⟩

theorem run_enumStatements {es : List EnumType} (hn : (es.map (·.name)).Nodup) :
    run p ⟨extensions, [], tables⟩ (es.map .createEnum) =
      some ⟨extensions, es.map (·.name), tables⟩ := by
  refine run_map_of_concat (fun es => ⟨extensions, es.map (·.name), tables⟩) es ?_
  intro earlier e later hsplit
  have hnew : e.name ∉ earlier.map (·.name) ++ later.map (·.name) :=
    notMem_of_nodup_split hn (by rw [hsplit, List.map_append, List.map_cons])
  refine execute_eq_some_iff.mpr ⟨fun h => hnew (List.mem_append_left _ h), ?_⟩
  rw [apply, List.map_append, List.map_singleton]

/-- The last table of a coherent schema finds the targets of its keys among the tables before. -/
theorem hasTarget_of_isCoherent (hc : IsCoherent (ts ++ [t])) (hts : TargetsEarlier (ts ++ [t]))
    {k : ForeignKey} (hk : k ∈ t.foreignKeys) : HasTarget p ⟨extensions, types, ts⟩ t k := by
  obtain ⟨u, hu, hname⟩ := (targetsEarlier_concat_iff.mp hts).2 k hk
  refine ⟨u, hu, hname, fun pair hpair => ?_⟩
  have ht : t ∈ ts ++ [t] := List.mem_concat_self
  obtain ⟨own, hown, hlocal, target, hmem, htarget, -, foreign, hforeign, hremote, hsame⟩ :=
    resolves_concat_self_iff.mp (hc.keys_resolve t ht k hk pair hpair)
  obtain rfl : target = u :=
    List.inj_on_of_nodup_map (names_concat_nodup_iff.mp hc.names_nodup).1 hmem hu
      (htarget.trans hname.symm)
  exact ⟨own, hown, hlocal, foreign, hforeign, hremote, renderedType_eq_of_same p hsame⟩

theorem execute_createTable (hc : IsCoherent (ts ++ [t])) (hts : TargetsEarlier (ts ++ [t]))
    (htypes : ∀ e ∈ t.columnEnums, e.name ∈ types) :
    execute p ⟨extensions, types, ts⟩ (.createTable t) = some ⟨extensions, types, ts ++ [t]⟩ := by
  have hnew := (names_concat_nodup_iff.mp hc.names_nodup).2
  exact execute_eq_some_iff.mpr
    ⟨⟨hnew, htypes, fun k hk => hasTarget_of_isCoherent hc hts hk⟩, rfl⟩

/-- The last table can go: the keys of the tables before lead to tables before. -/
theorem execute_dropTable (hc : IsCoherent (ts ++ [t])) (hts : TargetsEarlier (ts ++ [t])) :
    execute p ⟨extensions, types, ts ++ [t]⟩ (.dropTable t.name) =
      some ⟨extensions, types, ts⟩ := by
  have hnew := (names_concat_nodup_iff.mp hc.names_nodup).2
  have hbefore := (targetsEarlier_concat_iff.mp hts).1
  refine execute_eq_some_iff.mpr ⟨⟨by simp, ?_⟩, ?_⟩
  · intro u hu hne k hk htable
    obtain ⟨v, hv, hname⟩ := hbefore.exists_of_mem (mem_of_mem_concat hu hne) hk
    exact hnew (List.mem_map.mpr ⟨v, hv, hname.trans htable⟩)
  · have hself : ts.filter (fun u => u.name != t.name) = ts := others_eq_self hnew
    rw [apply, List.filter_append, hself, List.filter_cons_of_neg (by simp), List.filter_nil,
      List.append_nil]

theorem run_tableStatements (hc : IsCoherent tables) (hts : TargetsEarlier tables)
    (htypes : ∀ t ∈ tables, ∀ e ∈ t.columnEnums, e.name ∈ types) :
    run p ⟨extensions, types, []⟩ (tableStatements tables) =
      some ⟨extensions, types, tables⟩ := by
  refine run_map_of_concat (fun ts => ⟨extensions, types, ts⟩) tables ?_
  rintro earlier t later rfl
  rw [List.append_cons] at hc hts
  obtain ⟨hc, hts⟩ := hc.of_append hts
  exact execute_createTable hc hts (htypes t (by simp))

/-- All tables can go, the last one first. -/
theorem run_dropTables (hc : IsCoherent tables) (hts : TargetsEarlier tables) :
    run p ⟨extensions, types, tables⟩ (tables.reverse.map fun t => .dropTable t.name) =
      some ⟨extensions, types, []⟩ := by
  -- Reversed, the tables that are left are a beginning of the schema at every step.
  have hrun := @run_map_of_cons p Table (fun t => .dropTable t.name)
    (fun ts => ⟨extensions, types, ts.reverse⟩) tables.reverse
  rw [List.reverse_reverse] at hrun
  refine hrun fun gone t left hsplit => ?_
  have htables : tables = (left.reverse ++ [t]) ++ gone.reverse := by
    simpa using congrArg List.reverse hsplit
  obtain ⟨hc, hts⟩ := IsCoherent.of_append (htables ▸ hc) (htables ▸ hts)
  rw [List.reverse_cons]
  exact execute_dropTable hc hts

theorem filter_ne_cons_self {names : List String} {n : String} (h : n ∉ names) :
    (n :: names).filter (· != n) = names := by
  rw [List.filter_cons_of_neg (by simp), List.filter_eq_self]
  intro m hm
  simpa using fun e : m = n => h (e ▸ hm)

theorem run_dropTypes (hn : types.Nodup) :
    run p ⟨extensions, types, []⟩ (types.map .dropType) = some ⟨extensions, [], []⟩ := by
  refine run_map_of_cons (fun ns => ⟨extensions, ns, []⟩) types ?_
  intro gone n left hsplit
  have hrest := notMem_of_nodup_split hn hsplit
  refine execute_eq_some_iff.mpr ⟨⟨List.mem_cons_self, by simp⟩, ?_⟩
  rw [apply, filter_ne_cons_self fun h => hrest (List.mem_append_right gone h)]

theorem run_dropExtensions (hn : extensions.Nodup) :
    run p ⟨extensions, [], []⟩ (extensions.map .dropExtension) = some ⟨[], [], []⟩ := by
  refine run_map_of_cons (fun ns => ⟨ns, [], []⟩) extensions ?_
  intro gone n left hsplit
  have hrest := notMem_of_nodup_split hn hsplit
  refine execute_eq_some_iff.mpr ⟨List.mem_cons_self, ?_⟩
  rw [apply, filter_ne_cons_self fun h => hrest (List.mem_append_right gone h)]

end Catalogue

end Sql

namespace Registry

open Sql

variable {r : Registry}

theorem IsSound.enumStatements_eq (h : r.IsSound) :
    enumStatements r.customTypes = (firstEnums r.tables).map .createEnum := by
  rw [h.customTypes_eq, enumStatements, keyed, List.map_map]
  rfl

/-- The catalogue that holds what is registered. -/
def catalogue (r : Registry) : Catalogue :=
  ⟨r.extensions, r.customTypes.map (·.1), r.tables⟩

/-- The create script of a sound registry runs on the empty catalogue. -/
theorem IsSound.run_createStatements (h : r.IsSound) (p : IdentifierPolicy) :
    Catalogue.run p {} (createStatements r.tables r.extensions r.customTypes) =
      some r.catalogue := by
  have hextensions := @Catalogue.run_extensionStatements p r.extensions [] [] h.extensions_nodup
  have htypes := @Catalogue.run_enumStatements p r.extensions [] (firstEnums r.tables)
    (h.map_customTypes ▸ h.customTypes_nodup)
  rw [← h.enumStatements_eq, ← h.map_customTypes] at htypes
  rw [createStatements, List.append_assoc, Catalogue.run_append_of_eq_some hextensions,
    Catalogue.run_append_of_eq_some htypes]
  exact Catalogue.run_tableStatements h.coherent h.targets_earlier
    fun t ht e he => h.mem_customTypes ht he

/-- The drop script of a sound registry runs after the create script and leaves nothing. -/
theorem IsSound.run_dropStatements (h : r.IsSound) (p : IdentifierPolicy) :
    Catalogue.run p r.catalogue
      (dropStatements r.tables r.extensions (r.customTypes.map (·.1))) = some {} := by
  have htables := @Catalogue.run_dropTables p r.extensions (r.customTypes.map (·.1)) r.tables
    h.coherent h.targets_earlier
  have htypes := @Catalogue.run_dropTypes p r.extensions (r.customTypes.map (·.1))
    h.customTypes_nodup
  rw [dropStatements, List.append_assoc, catalogue, Catalogue.run_append_of_eq_some htables,
    Catalogue.run_append_of_eq_some htypes]
  exact Catalogue.run_dropExtensions h.extensions_nodup

theorem IsSound.objects_nodup (h : r.IsSound) : r.catalogue.objects.Nodup := by
  have hextensions : (r.extensions.map Object.extension).Nodup :=
    h.extensions_nodup.map fun _ _ e => Object.extension.inj e
  have htypes : ((r.customTypes.map (·.1)).map Object.enumeration).Nodup :=
    h.customTypes_nodup.map fun _ _ e => Object.enumeration.inj e
  have htables : ((r.tables.map (·.name)).map Object.table).Nodup :=
    h.coherent.names_nodup.map fun _ _ e => Object.table.inj e
  rw [List.map_map] at htables
  rw [catalogue, Catalogue.objects, List.nodup_append', List.nodup_append']
  refine ⟨⟨hextensions, htypes, ?_⟩, htables, ?_⟩
  · intro o ho ho'
    obtain ⟨n, -, rfl⟩ := List.mem_map.mp ho
    simp at ho'
  · intro o ho ho'
    obtain ⟨t, -, rfl⟩ := List.mem_map.mp ho'
    simp at ho

/-- The create script creates the objects of the catalogue in their order. -/
theorem IsSound.created_eq (h : r.IsSound) :
    (createStatements r.tables r.extensions r.customTypes).filterMap Statement.created? =
      r.catalogue.objects := by
  rw [createStatements, h.enumStatements_eq, catalogue, h.map_customTypes, Catalogue.objects,
    List.filterMap_append, List.filterMap_append, extensionStatements, tableStatements]
  simp only [List.filterMap_map, List.map_map]
  simp [Function.comp_def, Statement.created?]

/-- The drop script drops the objects of the catalogue. -/
theorem dropped_perm (r : Registry) :
    ((dropStatements r.tables r.extensions (r.customTypes.map (·.1))).filterMap
      Statement.dropped?).Perm r.catalogue.objects := by
  have hdropped : (dropStatements r.tables r.extensions (r.customTypes.map (·.1))).filterMap
      Statement.dropped? = (r.tables.map fun t => .table t.name).reverse ++
        ((r.customTypes.map (·.1)).map .enumeration ++ r.extensions.map .extension) := by
    simp [dropStatements, List.filterMap_map, Function.comp_def, Statement.dropped?]
  rw [hdropped]
  calc
    List.Perm _ ((r.tables.map fun t => .table t.name) ++
        (r.extensions.map .extension ++ (r.customTypes.map (·.1)).map .enumeration)) :=
      (List.reverse_perm _).append List.perm_append_comm
    List.Perm _ r.catalogue.objects := List.perm_append_comm

/-- After any operations the statements of the create script run on the empty catalogue and create
what is registered; those of the drop script run after them and drop what was created, each object
once. The scripts that are generated hold the texts of these statements. -/
theorem after_runs_scripts (s : Settings) (ops : List Operation) (before now : Log.Trace) :
    let r := ((Session.performAll { settings := s } ops).run before).1
    let creates := createStatements r.tables r.extensions r.customTypes
    let drops := dropStatements r.tables r.extensions (r.customTypes.map (·.1))
    (Catalogue.run r.settings.policy {} creates = some r.catalogue ∧
        Catalogue.run r.settings.policy r.catalogue drops = some {} ∧
        creates.filterMap Statement.created? = r.catalogue.objects ∧
        r.catalogue.objects.Nodup ∧
        (drops.filterMap Statement.dropped?).Perm r.catalogue.objects) ∧
      ((Session.generateSql r).run now).1 = ((texts r.settings creates).map
        (createLayout r.settings r.extensions.length r.customTypes.length)).mapError .sql ∧
      ((Session.generateDrop r).run now).1 = ((texts r.settings drops).map
        fun parts => r.settings.wrap (banner r.settings) ("\n".intercalate parts)).mapError
          .sql := by
  intro r creates drops
  have hr : r.IsSound := isSound_performAll s ops before
  refine ⟨⟨hr.run_createStatements _, hr.run_dropStatements _, hr.created_eq,
    hr.objects_nodup, dropped_perm r⟩, ?_, ?_⟩
  · rw [Session.generateSql_run_fst now hr.issues_eq_nil, createScript_eq]
  · rw [Session.generateDrop_run_fst now hr.issues_eq_nil]
    rfl

/-- A table that another one refers to cannot be dropped. -/
example :
    Catalogue.run .bare ⟨[], ["account_level"], [Sample.accounts, Sample.orders]⟩
      [.dropTable "accounts"] = none := by
  decide

end Registry

end TableSchema
