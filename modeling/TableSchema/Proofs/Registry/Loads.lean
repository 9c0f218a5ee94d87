import TableSchema.Proofs.Registry.Additions

/-!
# How loading a document ends

A document is loaded as a whole, or it is at fault and the registry stays as it was, or one of its
tables is refused and the registry holds the tables before that one. Whatever is wrong with a
document of any shape is found while it is read, before anything is added, and reported as a fault
of the file.
-/

namespace TableSchema

namespace Registry

variable {r : Registry}

/-- Extensions join the registered ones as first occurrences. -/
theorem extensions_addExtensions (h : r.extensions.Nodup) (ns : List String) :
    (r.addExtensions ns).extensions = firsts (r.extensions ++ ns) := by
  induction ns using List.reverseRecOn with
  | nil => rw [List.append_nil, firsts_eq_self h]; rfl
  | append_singleton ns n ih =>
      have hmem : (r.addExtensions ns).extensions.contains n = true ↔ n ∈ r.extensions ++ ns := by
        rw [List.contains_iff_mem, ih, mem_firsts]
      have hstep : r.addExtensions (ns ++ [n]) = (r.addExtensions ns).addExtension n := by
        simp [addExtensions]
      rw [hstep, addExtension, ← List.append_assoc]
      by_cases hn : n ∈ r.extensions ++ ns
      · rw [if_pos (hmem.mpr hn), ih, firsts_concat_of_mem hn]
      · rw [if_neg (mt hmem.mp hn), firsts_concat_of_notMem hn, ← ih]

/-- A document that can be read adds its extensions and its accepted tables. -/
theorem load_eq (r : Registry) (source : String) {d : Datum} {ds : Declarations}
    (h : Document.read d = .ok ds) :
    r.load source d =
      ((r.addExtensions ds.extensions).extend (accepted r.tables ds.tables),
        match firstRefusal? r.tables ds.tables with
        | none => .ok ()
        | some e => .error (.registration e)) := by
  have hall := acceptAll_eq (r.addExtensions ds.extensions) ds.tables
  rw [tables_addExtensions, addExtensions] at hall
  simp only [load, h, hall]
  cases firstRefusal? r.tables ds.tables with
  | none => rfl
  | some e => rfl

/-- All tables of a document that can be read are added, or those before a refused one. -/
theorem load_cases (r : Registry) (source : String) {d : Datum} {ds : Declarations}
    (h : Document.read d = .ok ds) :
    r.load source d = ((r.addExtensions ds.extensions).extend ds.tables, .ok ()) ∨
      ∃ earlier refused later e, ds.tables = earlier ++ refused :: later ∧
        r.load source d =
          ((r.addExtensions ds.extensions).extend earlier, .error (.registration e)) ∧
        refusal? (r.tables ++ earlier.map Table.withDistinctKey) refused = some e := by
  rw [load_eq r source h]
  rcases accepted_cases r.tables ds.tables with
    ⟨hall, hnone⟩ | ⟨earlier, refused, later, e, hts, hearlier, hfirst, hrefused⟩
  · rw [hall, hnone]
    exact Or.inl rfl
  · rw [hearlier, hfirst]
    exact Or.inr ⟨earlier, refused, later, e, hts, rfl, hrefused⟩

/-- A document that is loaded as a whole adds all its tables. -/
theorem tables_load_of_ok {r' : Registry} {source : String} {d : Datum}
    (h : r.load source d = (r', .ok ())) :
    ∃ ds, Document.read d = .ok ds ∧
      r'.tables = r.tables ++ ds.tables.map Table.withDistinctKey := by
  cases hread : Document.read d with
  | error f => simp [load, hread] at h
  | ok ds =>
      refine ⟨ds, rfl, ?_⟩
      rcases load_cases r source hread with hall | ⟨_, _, _, _, -, hrefused, -⟩
      · obtain ⟨rfl, -⟩ := Prod.mk.inj (hall.symm.trans h)
        rw [tables_extend, tables_addExtensions]
      · cases (Prod.mk.inj (hrefused.symm.trans h)).2

/-- Loading a document does to a registry what its additions do in turn. -/
theorem foldl_perform_declarations (r : Registry) (source : String) {d : Datum} {ds : Declarations}
    (h : Document.read d = .ok ds) :
    (ds.extensions.map Operation.addExtension ++ [Operation.addTables ds.tables]).foldl perform r =
      (r.load source d).1 := by
  have hextensions : (ds.extensions.map Operation.addExtension).foldl perform r =
      r.addExtensions ds.extensions := by
    rw [List.foldl_map]
    rfl
  rw [List.foldl_append, hextensions, List.foldl_cons, List.foldl_nil, perform_eq,
    load_eq r source h]
  exact congrArg (fun ts => (r.addExtensions ds.extensions).extend (accepted ts ds.tables))
    (tables_addExtensions r ds.extensions)

/-- A refused table leaves a registry as it is. -/
theorem acceptAll_singleton_of_refusal? {t : Table} {e : RegistrationError}
    (h : refusal? r.tables t = some e) : r.acceptAll [t] = (r, .error e) := by
  simp only [acceptAll, accept_eq, h]

/-- Loading a document into a registry ends in exactly one of three ways. All is added: the
extensions in their order, then the tables. Or the document cannot be read, and the registry is the
one before. Or a table is refused, and the registry has all the extensions and exactly the tables
before the refused one. -/
theorem load_outcome (s : Settings) (ops : List Operation) (source : String) (d : Datum)
    (before now : Log.Trace) :
    let r := ((Session.performAll { settings := s } ops).run before).1
    let loaded := ((Session.load r source d).run now).1
    match loaded.2 with
    | .ok () =>
      ∃ ds, Document.read d = .ok ds ∧
        loaded.1 = ((Session.performAll r
          (ds.extensions.map .addExtension ++ [.addTables ds.tables])).run now).1 ∧
        loaded.1.tables = r.tables ++ ds.tables.map Table.withDistinctKey
    | .error (.file path fault) =>
      loaded.1 = r ∧ path = source ∧ ∃ f, Document.read d = .error f ∧ fault = .document f
    | .error (.registration e) =>
      ∃ ds earlier refused later, Document.read d = .ok ds ∧
        ds.tables = earlier ++ refused :: later ∧
        loaded.1.settings = r.settings ∧
        loaded.1.extensions = firsts (r.extensions ++ ds.extensions) ∧
        loaded.1.tables = r.tables ++ earlier.map Table.withDistinctKey ∧
        loaded.1.customTypes = keyed (firstEnums loaded.1.tables) ∧
        ((Session.addTable loaded.1 refused).run now).1 = (loaded.1, .error e) := by
  intro r loaded
  have hr : r.IsSound := isSound_performAll s ops before
  have hloaded : loaded = r.load source d := Session.load_run_fst r now source d
  cases hread : Document.read d with
  | error f =>
      have heq : loaded = (r, .error (.file source (.document f))) := by
        simp only [hloaded, load, hread]
      rw [heq]
      exact ⟨rfl, rfl, f, rfl, rfl⟩
  | ok ds =>
      have htypes : loaded.1.customTypes = keyed (firstEnums loaded.1.tables) :=
        (hloaded ▸ hr.load source d).customTypes_eq
      rcases load_cases r source hread with
        hall | ⟨earlier, refused, later, e, hts, hrest, hrefused⟩
      · have heq := hloaded.trans hall
        rw [heq]
        refine ⟨ds, rfl, ?_, ?_⟩
        · rw [Session.performAll_run_fst_foldl, foldl_perform_declarations r source hread, hall]
        · rw [tables_extend, tables_addExtensions]
      · have heq := hloaded.trans hrest
        have htables : loaded.1.tables = r.tables ++ earlier.map Table.withDistinctKey := by
          rw [heq, tables_extend, tables_addExtensions]
        have hsettings : loaded.1.settings = r.settings := by
          rw [heq]
          exact settings_addExtensions r ds.extensions
        have hextensions : loaded.1.extensions = firsts (r.extensions ++ ds.extensions) := by
          rw [heq, extensions_extend, extensions_addExtensions hr.extensions_nodup]
        have hagain : ((Session.addTable loaded.1 refused).run now).1 = (loaded.1, .error e) := by
          rw [Session.addTable_run_fst, acceptAll_singleton_of_refusal? (htables ▸ hrefused)]
        rw [show loaded.2 = .error (.registration e) from congrArg Prod.snd heq]
        exact ⟨ds, earlier, refused, later, rfl, hts, hsettings, hextensions, htables, htypes,
          hagain⟩

end Registry

end TableSchema
