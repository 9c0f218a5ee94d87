import TableSchema.Proofs.Registry.Acceptance
import TableSchema.Proofs.Registry.Operations

/-!
# What holds of a registry after any operations

The tables of a registry are coherent and their foreign keys lead to earlier tables; the
enumerations under which a registry keeps its types are those of the columns of its tables, of each
name the first. An empty registry is sound, and every operation keeps it so, also one that fails.
-/

namespace TableSchema.Registry

open Validation

/-- Enumerations under their names. -/
def keyed (es : List EnumType) : Sql.CustomTypes :=
  es.map fun e => (e.name, e)

/-- The enumerations that the columns of tables declare, of each name the first. -/
def firstEnums (ts : List Table) : List EnumType :=
  firstsBy (·.name) (ts.flatMap (·.columnEnums))

/-- What every registry keeps from its beginning on. -/
structure IsSound (r : Registry) : Prop where
  coherent : IsCoherent r.tables
  targets_earlier : TargetsEarlier r.tables
  customTypes_eq : r.customTypes = keyed (firstEnums r.tables)
  extensions_nodup : r.extensions.Nodup

variable {r : Registry}

theorem map_fst_keyed (es : List EnumType) : (keyed es).map (·.1) = es.map (·.name) := by
  simp [keyed]

/-- An enumeration joins the registered ones as it joins the first declarations. -/
theorem registerEnum_keyed (es : List EnumType) (e : EnumType) :
    registerEnum (keyed (firstsBy (·.name) es)) e = keyed (firstsBy (·.name) (es ++ [e])) := by
  have hmem : e.name ∈ (firstsBy (·.name) es).map (·.name) ↔ e.name ∈ es.map (·.name) := by
    rw [map_firstsBy, mem_firsts]
  unfold registerEnum
  by_cases he : e.name ∈ es.map (·.name)
  · obtain ⟨d, hd⟩ := Option.ne_none_iff_exists'.mp fun h =>
      lookupFirst_eq_none_iff.mp h (map_fst_keyed _ ▸ hmem.mpr he)
    rw [firstsBy_concat_of_mem he, if_pos (Option.isSome_of_eq_some hd)]
  · have hnone := lookupFirst_eq_none_iff.mpr (map_fst_keyed _ ▸ mt hmem.mp he)
    rw [firstsBy_concat_of_notMem he, hnone]
    simp [keyed]

theorem registerEnums_keyed (es fs : List EnumType) :
    registerEnums (keyed (firstsBy (·.name) es)) fs = keyed (firstsBy (·.name) (es ++ fs)) := by
  induction fs generalizing es with
  | nil => simp [registerEnums]
  | cons f fs ih =>
      rw [registerEnums, List.foldl_cons, registerEnum_keyed]
      simpa [registerEnums] using ih (es ++ [f])

theorem isSound_empty (s : Settings) : IsSound { settings := s } where
  coherent := schemaIssues_eq_nil_iff.mp rfl
  targets_earlier := targetsEarlier_nil
  customTypes_eq := rfl
  extensions_nodup := List.nodup_nil

theorem IsSound.addExtension (h : r.IsSound) (n : String) : (r.addExtension n).IsSound := by
  unfold Registry.addExtension
  by_cases hn : n ∈ r.extensions
  · simpa [hn] using h
  · rw [if_neg (by simpa using hn)]
    refine ⟨h.coherent, h.targets_earlier, h.customTypes_eq, ?_⟩
    rw [List.nodup_append']
    exact ⟨h.extensions_nodup, List.nodup_singleton n, by simpa using hn⟩

theorem IsSound.addExtensions (h : r.IsSound) (ns : List String) :
    (ns.foldl Registry.addExtension r).IsSound := by
  induction ns generalizing r with
  | nil => exact h
  | cons n ns ih => exact ih (h.addExtension n)

/-- An accepted table keeps a registry sound. -/
theorem IsSound.accept {r' : Registry} {t : Table} (h : r.IsSound) (ha : r.accept t = .ok r') :
    r'.IsSound := by
  obtain ⟨⟨hnew, hissues⟩, rfl⟩ := accept_eq_ok_iff.mp ha
  obtain ⟨hc, hts⟩ := (@isCoherent_concat_iff r.tables t.withDistinctKey).mpr
    ⟨⟨h.coherent, h.targets_earlier⟩, hnew, hissues⟩
  refine ⟨hc, hts, ?_, h.extensions_nodup⟩
  rw [append, h.customTypes_eq, firstEnums, registerEnums_keyed, firstEnums]
  simp

theorem IsSound.acceptAll (h : r.IsSound) (ts : List Table) : (r.acceptAll ts).1.IsSound :=
  acceptAll_induction ts h fun _ _ _ hr ha => hr.accept ha

theorem IsSound.load (h : r.IsSound) (source : String) (d : Datum) :
    (r.load source d).1.IsSound := by
  unfold Registry.load
  cases Document.read d with
  | error f => exact h
  | ok declared => exact (h.addExtensions declared.extensions).acceptAll declared.tables

/-- Every operation keeps a registry sound. -/
theorem IsSound.perform (h : r.IsSound) (op : Operation) : (r.perform op).IsSound := by
  cases op with
  | addExtension n => exact h.addExtension n
  | addTable t => exact h.acceptAll [t]
  | addTables ts => exact h.acceptAll ts
  | load source d => exact h.load source d
  | validate | generateSql | generateTypescript | generateDrop => exact h

theorem isSound_after (s : Settings) (ops : List Operation) : (after s ops).IsSound := by
  induction ops using List.reverseRecOn with
  | nil => exact isSound_empty s
  | append_singleton ops op ih => exact after_concat s ops op ▸ ih.perform op

theorem isSound_performAll (s : Settings) (ops : List Operation) (trace : Log.Trace) :
    ((Session.performAll { settings := s } ops).run trace).1.IsSound := by
  rw [Session.performAll_run_fst]
  exact isSound_after s ops

/-- The registered types are under their own names, each name once. -/
theorem IsSound.map_customTypes (h : r.IsSound) :
    r.customTypes.map (·.1) = (firstEnums r.tables).map (·.name) := by
  rw [h.customTypes_eq, map_fst_keyed]

theorem IsSound.mem_customTypes (h : r.IsSound) {t : Table} (ht : t ∈ r.tables) {e : EnumType}
    (he : e ∈ t.columnEnums) : e.name ∈ r.customTypes.map (·.1) := by
  rw [h.map_customTypes, firstEnums, map_firstsBy, mem_firsts]
  exact List.mem_map_of_mem (List.mem_flatMap.mpr ⟨t, ht, he⟩)

theorem IsSound.customTypes_nodup (h : r.IsSound) : (r.customTypes.map (·.1)).Nodup := by
  rw [h.map_customTypes]
  exact nodup_map_firstsBy _ _

theorem IsSound.issues_eq_nil (h : r.IsSound) : r.issues = [] :=
  schemaIssues_eq_nil_iff.mpr h.coherent

theorem mapError_ne_error {ε δ α : Type} {f : ε → δ} {d : δ} (h : ∀ e, f e ≠ d)
    (x : Except ε α) : x.mapError f ≠ .error d := by
  cases x with
  | ok a => exact nofun
  | error e => exact fun he => h e (Except.error.inj he)

/-- After any operations the check of the whole schema finds nothing: every table is as good among
all tables as it was among those before it, and nothing is refused for want of validity. -/
theorem after_validates (s : Settings) (ops : List Operation) (before now : Log.Trace) :
    let r := ((Session.performAll { settings := s } ops).run before).1
    schemaIssues r.tables = [] ∧ (∀ t ∈ r.tables, tableIssues r.tables t = []) ∧
      ((Session.validate r).run now).1 = [] ∧
      ∀ issues, ((Session.generateSql r).run now).1 ≠ .error (.invalid issues) ∧
        ((Session.generateTypescript r).run now).1 ≠ .error (.invalid issues) ∧
        ((Session.generateDrop r).run now).1 ≠ .error (.invalid issues) := by
  intro r
  have hr : r.IsSound := isSound_performAll s ops before
  have hissues : r.issues = [] := hr.issues_eq_nil
  refine ⟨hissues, (schemaIssues_eq_nil_iff_forall.mp hissues).2, hissues, fun issues => ?_⟩
  rw [Session.generateSql_run_fst now hissues, Session.generateTypescript_run_fst now hissues,
    Session.generateDrop_run_fst now hissues]
  exact ⟨mapError_ne_error (by simp) _, mapError_ne_error (by simp) _,
    mapError_ne_error (by simp) _⟩

end TableSchema.Registry
