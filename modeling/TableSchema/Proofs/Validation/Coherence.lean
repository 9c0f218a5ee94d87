import TableSchema.Proofs.Validation.TableCheck

/-!
# Coherent schemas

A schema is coherent by conditions that do not mention the order of its tables, and the check of
the whole schema finds nothing exactly in coherent schemas.

## Implementation notes

The check of a table compares each of its names with the first other owner only, so that two
owners of one name may go unnoticed by one of the two tables. The first table in the list that
declares the name settles the matter: every other table is compared with it, and it is compared
with the first of the others.
-/

namespace TableSchema.Validation

/-- The pair of columns of a foreign key of the table leads to a column of the same type in a table
of another name. -/
def Resolves (schema : List Table) (t : Table) (k : ForeignKey) (p : ColumnReference) : Prop :=
  ∃ own ∈ t.columns, own.name = .text p.localName ∧
    ∃ target ∈ schema, target.name = k.table ∧ target.name ≠ t.name ∧
      ∃ foreign ∈ target.columns, foreign.name = .text p.foreignName ∧
        foreign.type.Same own.type

/-- No name is declared for two owners, be it by one table or by two. -/
def HasSingleOwners (schema : List Table) : Prop :=
  ∀ t ∈ schema, ∀ u ∈ schema, ∀ n o o', t.Declares n o → u.Declares n o' → o = o'

/-- The tables fit together, whatever their order. -/
structure IsCoherent (schema : List Table) : Prop where
  names_nodup : (schema.map (·.name)).Nodup
  tables_wellFormed : ∀ t ∈ schema, t.IsWellFormed
  keys_resolve : ∀ t ∈ schema, ∀ k ∈ t.foreignKeys, ∀ p ∈ k.columns, Resolves schema t k p
  single_owners : HasSingleOwners schema

variable {schema known ts us : List Table} {t : Table}

theorem mem_others {n : String} : t ∈ others ts n ↔ t ∈ ts ∧ t.name ≠ n := by
  simp [others]

theorem others_eq_self {n : String} (h : n ∉ ts.map (·.name)) : others ts n = ts := by
  rw [others, List.filter_eq_self]
  intro t ht
  simpa using fun e : t.name = n => h (List.mem_map.mpr ⟨t, ht, e⟩)

/-- Among distinct names a search for another table finds whatever table has the name. -/
theorem findTable?_others_eq_some_iff (h : (ts.map (·.name)).Nodup) {n m : String} :
    findTable? (others ts n) m = some t ↔ t ∈ ts ∧ t.name = m ∧ t.name ≠ n := by
  constructor
  · intro hf
    obtain ⟨ht, hne⟩ := mem_others.mp (List.mem_of_find?_eq_some hf)
    exact ⟨ht, by simpa using List.find?_some hf, hne⟩
  · rintro ⟨ht, rfl, hne⟩
    have hsome : (findTable? (others ts n) t.name).isSome :=
      List.find?_isSome.mpr ⟨t, mem_others.mpr ⟨ht, hne⟩, by simp⟩
    obtain ⟨u, hu⟩ := Option.isSome_iff_exists.mp hsome
    have hut : u ∈ ts := (mem_others.mp (List.mem_of_find?_eq_some hu)).1
    have hname : u.name = t.name := by simpa using List.find?_some hu
    rw [hu, List.inj_on_of_nodup_map h hut ht hname]

/-- In a schema of well-formed tables with distinct names the check finds the targets that exist. -/
theorem findsTarget_iff_resolves (hn : (known.map (·.name)).Nodup)
    (hknown : ∀ u ∈ known, u.IsWellFormed) (ht : t.IsWellFormed) {k : ForeignKey}
    {p : ColumnReference} : FindsTarget known t k p ↔ Resolves known t k p := by
  constructor
  · rintro ⟨own, hown, target, htarget, foreign, hforeign, hsame⟩
    obtain ⟨hmem, hname, hne⟩ := (findTable?_others_eq_some_iff hn).mp htarget
    obtain ⟨hown, hlocal⟩ := Table.column?_eq_some hown
    obtain ⟨hforeign, hremote⟩ := Table.column?_eq_some hforeign
    exact ⟨own, hown, hlocal, target, hmem, hname, hne, foreign, hforeign, hremote, hsame⟩
  · rintro ⟨own, hown, hlocal, target, hmem, hname, hne, foreign, hforeign, hremote, hsame⟩
    exact ⟨own, (Table.column?_eq_some_iff ht).mpr ⟨hown, hlocal⟩,
      target, (findTable?_others_eq_some_iff hn).mpr ⟨hmem, hname, hne⟩,
      foreign, (Table.column?_eq_some_iff (hknown target hmem)).mpr ⟨hforeign, hremote⟩, hsame⟩

theorem exists_declares_of_lookupFirst {n : String} {o : Owner}
    (h : lookupFirst n (ts.flatMap declaredNames) = some o) : ∃ t ∈ ts, t.Declares n o := by
  obtain ⟨t, ht, hd⟩ := List.mem_flatMap.mp (mem_of_lookupFirst h)
  exact ⟨t, ht, mem_declaredNames.mp hd⟩

/-- Where names have single owners, every owner is the first one. -/
theorem lookupFirst_eq_of_declares (hs : HasSingleOwners us) (hsub : ts ⊆ us) (ht : t ∈ ts)
    {n : String} {o : Owner} (hd : t.Declares n o) :
    lookupFirst n (ts.flatMap declaredNames) = some o := by
  obtain ⟨o', ho'⟩ := exists_lookupFirst
    (List.mem_flatMap.mpr ⟨t, ht, mem_declaredNames.mpr hd⟩)
  obtain ⟨u, hu, hdu⟩ := exists_declares_of_lookupFirst ho'
  rw [ho', hs t (hsub ht) u (hsub hu) n o o' hd hdu]

theorem ownsNames_of_hasSingleOwners (hs : HasSingleOwners us) (hsub : known ⊆ us)
    (ht : t ∈ us) : OwnsNames known t := by
  intro n o hd
  refine lookupFirst_eq_of_declares hs ?_ List.mem_concat_self hd
  intro u hu
  rcases List.mem_append.mp hu with hu | hu
  · exact hsub (mem_others.mp hu).1
  · rwa [List.mem_singleton.mp hu]

/-- The first table that declares a name decides about its owner: every other table is compared
with this one. -/
theorem lookupFirst_of_ownsNames (hn : (ts.map (·.name)).Nodup) (howns : ∀ t ∈ ts, OwnsNames ts t)
    (ht : t ∈ ts) {n : String} {o : Owner} (hd : t.Declares n o) :
    lookupFirst n (ts.flatMap declaredNames) = some o := by
  obtain ⟨first, hfirst⟩ := exists_lookupFirst
    (List.mem_flatMap.mpr ⟨t, ht, mem_declaredNames.mpr hd⟩)
  rw [hfirst]
  rw [lookupFirst_flatMap] at hfirst
  obtain ⟨before, decider, after, rfl, hdecides, hbefore⟩ :=
    List.findSome?_eq_some_iff.mp hfirst
  have hdecider : decider.Declares n first := mem_declaredNames.mp (mem_of_lookupFirst hdecides)
  have hmem : decider ∈ before ++ decider :: after := by simp
  by_cases hname : t.name = decider.name
  · -- The table is the decider itself, whose own names are all compared with the same owner.
    obtain rfl : t = decider := List.inj_on_of_nodup_map hn ht hmem hname
    exact (howns t ht n first hdecider).symm.trans (howns t ht n o hd)
  · have hothers : others (before ++ decider :: after) t.name =
        others before t.name ++ decider :: others after t.name := by
      simp [others, Ne.symm hname]
    have hskip : (others before t.name).findSome? (fun u => lookupFirst n (declaredNames u)) =
        none :=
      List.findSome?_eq_none_iff.mpr fun u hu => hbefore u (mem_others.mp hu).1
    have hown := howns t ht n o hd
    rw [hothers, lookupFirst_flatMap, List.append_assoc, List.findSome?_append, hskip,
      Option.none_or, List.cons_append, List.findSome?_cons, hdecides] at hown
    exact hown

theorem hasSingleOwners_of_ownsNames (hn : (ts.map (·.name)).Nodup)
    (howns : ∀ t ∈ ts, OwnsNames ts t) : HasSingleOwners ts := by
  intro t ht u hu n o o' hd hd'
  have h := lookupFirst_of_ownsNames hn howns ht hd
  rw [lookupFirst_of_ownsNames hn howns hu hd'] at h
  exact (Option.some.inj h).symm

theorem issuesFrom_eq_nil_iff (earlier : List String) (ts : List Table) :
    issuesFrom schema earlier ts = [] ↔
      (∀ t ∈ ts, t.name ∉ earlier) ∧ (ts.map (·.name)).Nodup ∧
        ∀ t ∈ ts, tableIssues schema t = [] := by
  induction ts generalizing earlier with
  | nil => simp [issuesFrom]
  | cons t ts ih =>
      have hhead : (if earlier.contains t.name then [Problem.repeatedTable.issue t.name] else []) =
          [] ↔ t.name ∉ earlier := by
        simp
      rw [issuesFrom, List.append_eq_nil_iff, List.append_eq_nil_iff, hhead, ih, List.map_cons,
        List.nodup_cons]
      simp only [List.mem_append, List.mem_singleton, not_or, List.forall_mem_cons, List.mem_map,
        not_exists, not_and]
      constructor
      · rintro ⟨⟨ht, hissues⟩, hnew, hnodup, hrest⟩
        exact ⟨⟨ht, fun u hu => (hnew u hu).1⟩, ⟨fun u hu => (hnew u hu).2, hnodup⟩,
          hissues, hrest⟩
      · rintro ⟨⟨ht, hnew⟩, ⟨hfirst, hnodup⟩, hissues, hrest⟩
        exact ⟨⟨ht, hissues⟩, fun u hu => ⟨hnew u hu, hfirst u hu⟩, hnodup, hrest⟩

/-- A whole schema has no issues exactly if its names are distinct and no table has issues. -/
theorem schemaIssues_eq_nil_iff_forall :
    schemaIssues schema = [] ↔
      (schema.map (·.name)).Nodup ∧ ∀ t ∈ schema, tableIssues schema t = [] := by
  rw [schemaIssues, issuesFrom_eq_nil_iff]
  simp

/-- A whole schema has no issues exactly if it is coherent. -/
theorem schemaIssues_eq_nil_iff : schemaIssues schema = [] ↔ IsCoherent schema := by
  rw [schemaIssues_eq_nil_iff_forall]
  simp only [tableIssues_eq_nil_iff]
  constructor
  · rintro ⟨hn, h⟩
    have hform (t : Table) (ht : t ∈ schema) : t.IsWellFormed := (h t ht).1
    refine ⟨hn, hform, fun t ht k hk p hp => ?_,
      hasSingleOwners_of_ownsNames hn fun t ht => (h t ht).2.2⟩
    exact (findsTarget_iff_resolves hn hform (hform t ht)).mp ((h t ht).2.1 k hk p hp)
  · intro hc
    refine ⟨hc.names_nodup, fun t ht => ⟨hc.tables_wellFormed t ht, fun k hk p hp => ?_,
      ownsNames_of_hasSingleOwners hc.single_owners (List.Subset.refl _) ht⟩⟩
    exact (findsTarget_iff_resolves hc.names_nodup hc.tables_wellFormed
      (hc.tables_wellFormed t ht)).mpr (hc.keys_resolve t ht k hk p hp)

instance (schema : List Table) : Decidable (IsCoherent schema) :=
  decidable_of_iff _ schemaIssues_eq_nil_iff

theorem Resolves.mono {k : ForeignKey} {p : ColumnReference} (hsub : ts ⊆ us)
    (h : Resolves ts t k p) : Resolves us t k p := by
  obtain ⟨own, hown, hlocal, target, hmem, hrest⟩ := h
  exact ⟨own, hown, hlocal, target, hsub hmem, hrest⟩

theorem IsCoherent.of_perm (hp : ts.Perm us) (h : IsCoherent ts) : IsCoherent us where
  names_nodup := (hp.map _).nodup_iff.mp h.names_nodup
  tables_wellFormed t ht := h.tables_wellFormed t (hp.mem_iff.mpr ht)
  keys_resolve t ht k hk p hpair :=
    (h.keys_resolve t (hp.mem_iff.mpr ht) k hk p hpair).mono hp.subset
  single_owners t ht u hu :=
    h.single_owners t (hp.mem_iff.mpr ht) u (hp.mem_iff.mpr hu)

theorem isCoherent_perm_iff (hp : ts.Perm us) : IsCoherent ts ↔ IsCoherent us :=
  ⟨IsCoherent.of_perm hp, IsCoherent.of_perm hp.symm⟩

section DistinctKey

theorem isWellFormed_withDistinctKey_iff : t.withDistinctKey.IsWellFormed ↔ t.IsWellFormed := by
  have hkeys : (∀ k ∈ t.withDistinctKey.primaryKeys, ∃ c ∈ t.columns, c.name = .text k) ↔
      ∀ k ∈ t.primaryKeys, ∃ c ∈ t.columns, c.name = .text k := by
    simp [Table.withDistinctKey, mem_firsts]
  constructor
  · intro h
    exact ⟨h.columns_distinct, fun e => h.key_ne_nil (firsts_eq_nil_iff.mpr e),
      hkeys.mp h.key_known, h.locals_nodup, h.members_nodup⟩
  · intro h
    exact ⟨h.columns_distinct, fun e => h.key_ne_nil (firsts_eq_nil_iff.mp e),
      hkeys.mpr h.key_known, h.locals_nodup, h.members_nodup⟩

theorem map_name_withDistinctKey :
    (ts.map Table.withDistinctKey).map (·.name) = ts.map (·.name) := by
  rw [List.map_map]
  rfl

/-- Repeats in primary keys have no part in the coherence of a schema. -/
theorem isCoherent_map_withDistinctKey_iff :
    IsCoherent (ts.map Table.withDistinctKey) ↔ IsCoherent ts := by
  have hresolves (t : Table) (k : ForeignKey) (p : ColumnReference) :
      Resolves (ts.map Table.withDistinctKey) t.withDistinctKey k p ↔ Resolves ts t k p := by
    simp [Resolves, Table.withDistinctKey]
  have hdeclares (t : Table) (n : String) (o : Owner) :
      t.withDistinctKey.Declares n o ↔ t.Declares n o := Iff.rfl
  constructor
  · intro h
    have hmem {t : Table} (ht : t ∈ ts) : t.withDistinctKey ∈ ts.map Table.withDistinctKey :=
      List.mem_map_of_mem ht
    exact ⟨map_name_withDistinctKey ▸ h.names_nodup,
      fun t ht => isWellFormed_withDistinctKey_iff.mp (h.tables_wellFormed _ (hmem ht)),
      fun t ht k hk p hp => (hresolves t k p).mp (h.keys_resolve _ (hmem ht) k hk p hp),
      fun t ht u hu n o o' hd hd' => h.single_owners _ (hmem ht) _ (hmem hu) n o o'
        ((hdeclares t n o).mpr hd) ((hdeclares u n o').mpr hd')⟩
  · intro h
    refine ⟨map_name_withDistinctKey.symm ▸ h.names_nodup, ?_, ?_, ?_⟩
    · simpa [isWellFormed_withDistinctKey_iff] using h.tables_wellFormed
    · rintro _ hmem k hk p hp
      obtain ⟨t, ht, rfl⟩ := List.mem_map.mp hmem
      exact (hresolves t k p).mpr (h.keys_resolve t ht k hk p hp)
    · rintro _ hmem _ hmem' n o o' hd hd'
      obtain ⟨t, ht, rfl⟩ := List.mem_map.mp hmem
      obtain ⟨u, hu, rfl⟩ := List.mem_map.mp hmem'
      exact h.single_owners t ht u hu n o o' hd hd'

end DistinctKey

namespace Sample

/-- The levels of accounts. -/
def level : EnumType where
  name := "account_level"
  values := ["basic", "extra"]
  name_fits := by decide
  values_ne_nil := by decide

/-- Accounts with their levels. -/
def accounts : Table where
  name := "accounts"
  typeName := "Account"
  columns := [⟨.text "id", .scalar .uuid, false, none⟩,
    ⟨.text "level", .enumeration level, false, none⟩]
  primaryKeys := ["id", "id"]
  foreignKeys := []
  constraints := []
  name_fits := by decide
  typeName_ok := by decide

/-- Orders, each of an account. -/
def orders : Table where
  name := "orders"
  typeName := "Order"
  columns := [⟨.text "id", .scalar .serial, false, none⟩,
    ⟨.text "account", .scalar .uuid, false, none⟩,
    ⟨.text "level", .enumeration level, true, none⟩]
  primaryKeys := ["id"]
  foreignKeys := [⟨"accounts", [⟨"account", "id", by decide, by decide⟩], none, none,
    by decide, by decide⟩]
  constraints := []
  name_fits := by decide
  typeName_ok := by decide

/-- Tags by themselves. -/
def tags : Table where
  name := "tags"
  typeName := "Tag"
  columns := [⟨.text "label", .scalar .text, false, none⟩]
  primaryKeys := ["label"]
  foreignKeys := []
  constraints := []
  name_fits := by decide
  typeName_ok := by decide

end Sample

/-- The check of a whole schema finds nothing exactly in coherent schemas, and so does not depend on
the order of the tables. -/
theorem schemaIssues_eq_nil_iff_and_perm (ts : List Table) :
    (schemaIssues ts = [] ↔ IsCoherent ts) ∧
      ∀ us, ts.Perm us → (schemaIssues ts = [] ↔ schemaIssues us = []) := by
  refine ⟨schemaIssues_eq_nil_iff, fun us hp => ?_⟩
  calc
    schemaIssues ts = [] ↔ IsCoherent ts := schemaIssues_eq_nil_iff
    _ ↔ IsCoherent us := isCoherent_perm_iff hp
    _ ↔ schemaIssues us = [] := schemaIssues_eq_nil_iff.symm

theorem schemaIssues_orders_accounts :
    [Sample.orders, Sample.accounts].Perm [Sample.accounts, Sample.orders] ∧
      schemaIssues [Sample.accounts, Sample.orders] = [] :=
  have hp : [Sample.orders, Sample.accounts].Perm [Sample.accounts, Sample.orders] :=
    List.Perm.swap _ _ _
  ⟨hp, ((schemaIssues_eq_nil_iff_and_perm _).2 _ hp).mp (by decide)⟩

end TableSchema.Validation
