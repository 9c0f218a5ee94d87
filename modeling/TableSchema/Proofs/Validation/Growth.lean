import Mathlib.Data.List.Induction
import TableSchema.Proofs.Validation.Coherence

/-!
# Schemas that grow table by table

In a schema that is built from its first table on, foreign keys lead to earlier tables. A table
without issues among the tables before it keeps such a schema coherent, and every beginning of a
coherent schema with earlier targets is one again. So the check of each table against the tables
before it and the check of the whole schema agree.
-/

namespace TableSchema.Validation

/-- Every foreign key names a table that stands earlier in the list than the table of the key. -/
def TargetsEarlier (ts : List Table) : Prop :=
  ∀ earlier t later, ts = earlier ++ t :: later →
    ∀ k ∈ t.foreignKeys, ∃ u ∈ earlier, u.name = k.table

variable {ts : List Table} {t : Table}

theorem targetsEarlier_nil : TargetsEarlier [] := by
  intro earlier t later h
  simp at h

theorem targetsEarlier_concat_iff :
    TargetsEarlier (ts ++ [t]) ↔
      TargetsEarlier ts ∧ ∀ k ∈ t.foreignKeys, ∃ u ∈ ts, u.name = k.table := by
  constructor
  · intro h
    refine ⟨?_, h ts t [] rfl⟩
    rintro earlier u later rfl
    exact h earlier u (later ++ [t]) (by simp)
  · rintro ⟨hts, ht⟩ earlier u later h
    rcases List.eq_nil_or_concat later with rfl | ⟨later, v, rfl⟩
    · obtain ⟨rfl, hu⟩ := List.append_inj' h rfl
      obtain rfl : t = u := by simpa using hu
      exact ht
    · have hsplit : ts ++ [t] = (earlier ++ u :: later) ++ [v] := by simpa using h
      exact hts earlier u later (List.append_inj' hsplit rfl).1

theorem targetsEarlier_iff_forall_take :
    TargetsEarlier ts ↔
      ∀ i : Fin ts.length, ∀ k ∈ ts[i].foreignKeys, ∃ u ∈ ts.take i, u.name = k.table := by
  constructor
  · intro h i
    refine h (ts.take i) ts[i] (ts.drop (i + 1)) ?_
    simp
  · rintro h earlier t later rfl
    simpa using h ⟨earlier.length, by simp⟩

instance (ts : List Table) : Decidable (TargetsEarlier ts) :=
  decidable_of_iff _ targetsEarlier_iff_forall_take.symm

theorem names_concat_nodup_iff :
    ((ts ++ [t]).map (·.name)).Nodup ↔
      (ts.map (·.name)).Nodup ∧ t.name ∉ ts.map (·.name) := by
  rw [List.map_append, List.map_singleton, List.nodup_append']
  simp

theorem mem_of_mem_concat {u : Table} (hu : u ∈ ts ++ [t]) (hne : u.name ≠ t.name) : u ∈ ts := by
  rcases List.mem_append.mp hu with h | h
  · exact h
  · exact absurd (congrArg Table.name (List.mem_singleton.mp h)) hne

/-- A table is never its own target. -/
theorem resolves_concat_self_iff {k : ForeignKey} {p : ColumnReference} :
    Resolves (ts ++ [t]) t k p ↔ Resolves ts t k p := by
  refine ⟨?_, Resolves.mono (List.subset_append_left ts [t])⟩
  rintro ⟨own, hown, hlocal, target, hmem, hname, hne, hforeign⟩
  exact ⟨own, hown, hlocal, target, mem_of_mem_concat hmem hne, hname, hne, hforeign⟩

/-- A target that stands earlier is found without the tables that come later. -/
theorem Resolves.of_concat {u : Table} {k : ForeignKey} {p : ColumnReference}
    (hn : ((ts ++ [t]).map (·.name)).Nodup) (hearlier : ∃ v ∈ ts, v.name = k.table)
    (h : Resolves (ts ++ [t]) u k p) : Resolves ts u k p := by
  obtain ⟨own, hown, hlocal, target, hmem, hname, hrest⟩ := h
  obtain ⟨v, hv, hvname⟩ := hearlier
  have htarget : target = v :=
    List.inj_on_of_nodup_map hn hmem (List.mem_append_left _ hv) (hname.trans hvname.symm)
  exact ⟨own, hown, hlocal, target, htarget ▸ hv, hname, hrest⟩

theorem TargetsEarlier.exists_of_mem (h : TargetsEarlier ts) (ht : t ∈ ts) {k : ForeignKey}
    (hk : k ∈ t.foreignKeys) : ∃ u ∈ ts, u.name = k.table := by
  obtain ⟨earlier, later, rfl⟩ := List.append_of_mem ht
  obtain ⟨u, hu, hname⟩ := h earlier t later rfl k hk
  exact ⟨u, List.mem_append_left _ hu, hname⟩

/-- Names keep single owners when a table joins that owns its names after the others. -/
theorem HasSingleOwners.concat (hs : HasSingleOwners ts) (hnew : t.name ∉ ts.map (·.name))
    (howns : OwnsNames ts t) : HasSingleOwners (ts ++ [t]) := by
  have hfirst (u : Table) (hu : u ∈ ts ++ [t]) (n : String) (o : Owner) (hd : u.Declares n o) :
      lookupFirst n ((ts ++ [t]).flatMap declaredNames) = some o := by
    rcases List.mem_append.mp hu with hu | hu
    · rw [List.flatMap_append, lookupFirst_append,
        lookupFirst_eq_of_declares hs (List.Subset.refl ts) hu hd, Option.some_or]
    · obtain rfl : u = t := List.mem_singleton.mp hu
      simpa only [others_eq_self hnew] using howns n o hd
  intro u hu v hv n o o' hd hd'
  exact Option.some.inj ((hfirst u hu n o hd).symm.trans (hfirst v hv n o' hd'))

/-- A table without issues keeps a coherent schema coherent. -/
theorem IsCoherent.concat (hc : IsCoherent ts) (hnew : t.name ∉ ts.map (·.name))
    (hissues : tableIssues ts t = []) : IsCoherent (ts ++ [t]) := by
  obtain ⟨hform, htargets, howns⟩ := (tableIssues_eq_nil_iff ts t).mp hissues
  refine ⟨names_concat_nodup_iff.mpr ⟨hc.names_nodup, hnew⟩, ?_, ?_,
    hc.single_owners.concat hnew howns⟩
  · intro u hu
    rcases List.mem_append.mp hu with hu | hu
    · exact hc.tables_wellFormed u hu
    · exact List.mem_singleton.mp hu ▸ hform
  · intro u hu k hk p hp
    rcases List.mem_append.mp hu with hu | hu
    · exact (hc.keys_resolve u hu k hk p hp).mono (List.subset_append_left ts [t])
    · obtain rfl : u = t := List.mem_singleton.mp hu
      exact resolves_concat_self_iff.mpr ((findsTarget_iff_resolves hc.names_nodup
        hc.tables_wellFormed hform).mp (htargets k hk p hp))

/-- The keys of a table without issues lead to the tables that it is checked against. -/
theorem exists_target_of_tableIssues_eq_nil (hissues : tableIssues ts t = []) {k : ForeignKey}
    (hk : k ∈ t.foreignKeys) : ∃ u ∈ ts, u.name = k.table := by
  obtain ⟨-, htargets, -⟩ := (tableIssues_eq_nil_iff ts t).mp hissues
  obtain ⟨p, hp⟩ := List.exists_mem_of_ne_nil _ k.columns_ne_nil
  obtain ⟨-, -, target, htarget, -⟩ := htargets k hk p hp
  exact ⟨target, (mem_others.mp (List.mem_of_find?_eq_some htarget)).1,
    by simpa using List.find?_some htarget⟩

/-- Without its last table a coherent schema with earlier targets is coherent. -/
theorem IsCoherent.of_concat (hc : IsCoherent (ts ++ [t])) (hts : TargetsEarlier ts) :
    IsCoherent ts where
  names_nodup := (names_concat_nodup_iff.mp hc.names_nodup).1
  tables_wellFormed u hu := hc.tables_wellFormed u (List.mem_append_left _ hu)
  keys_resolve u hu k hk p hp :=
    (hc.keys_resolve u (List.mem_append_left _ hu) k hk p hp).of_concat hc.names_nodup
      (hts.exists_of_mem hu hk)
  single_owners u hu v hv :=
    hc.single_owners u (List.mem_append_left _ hu) v (List.mem_append_left _ hv)

/-- The last table of a coherent schema has no issues among the tables before it. -/
theorem IsCoherent.tableIssues_eq_nil (hc : IsCoherent (ts ++ [t])) (hts : IsCoherent ts) :
    tableIssues ts t = [] := by
  have ht : t ∈ ts ++ [t] := List.mem_concat_self
  have hform := hc.tables_wellFormed t ht
  refine (tableIssues_eq_nil_iff ts t).mpr ⟨hform, fun k hk p hp => ?_,
    ownsNames_of_hasSingleOwners hc.single_owners (List.subset_append_left ts [t]) ht⟩
  exact (findsTarget_iff_resolves hts.names_nodup hts.tables_wellFormed hform).mpr
    (resolves_concat_self_iff.mp (hc.keys_resolve t ht k hk p hp))

/-- One more table: the check against the tables before it does as well as the check of the whole
schema, if targets stand earlier. -/
theorem isCoherent_concat_iff :
    (IsCoherent (ts ++ [t]) ∧ TargetsEarlier (ts ++ [t])) ↔
      (IsCoherent ts ∧ TargetsEarlier ts) ∧ t.name ∉ ts.map (·.name) ∧ tableIssues ts t = [] := by
  constructor
  · rintro ⟨hc, htargets⟩
    obtain ⟨hts, -⟩ := targetsEarlier_concat_iff.mp htargets
    have hshort := hc.of_concat hts
    exact ⟨⟨hshort, hts⟩, (names_concat_nodup_iff.mp hc.names_nodup).2,
      hc.tableIssues_eq_nil hshort⟩
  · rintro ⟨⟨hc, hts⟩, hnew, hissues⟩
    exact ⟨hc.concat hnew hissues, targetsEarlier_concat_iff.mpr
      ⟨hts, fun k hk => exists_target_of_tableIssues_eq_nil hissues hk⟩⟩

/-- Every beginning of a coherent schema with earlier targets is one. -/
theorem IsCoherent.of_append {us : List Table} (hc : IsCoherent (ts ++ us))
    (hts : TargetsEarlier (ts ++ us)) : IsCoherent ts ∧ TargetsEarlier ts := by
  induction us using List.reverseRecOn with
  | nil => exact List.append_nil ts ▸ ⟨hc, hts⟩
  | append_singleton us u ih =>
      rw [← List.append_assoc] at hc hts
      obtain ⟨⟨hc, hts⟩, -⟩ := isCoherent_concat_iff.mp ⟨hc, hts⟩
      exact ih hc hts

theorem targetsEarlier_map_withDistinctKey_iff :
    TargetsEarlier (ts.map Table.withDistinctKey) ↔ TargetsEarlier ts := by
  constructor
  · rintro h earlier t later rfl k hk
    have hsplit := h (earlier.map Table.withDistinctKey) t.withDistinctKey
      (later.map Table.withDistinctKey) (by simp) k hk
    simpa [Table.withDistinctKey] using hsplit
  · intro h earlier' t' later' hsplit k hk
    obtain ⟨earlier, rest, rfl, rfl, hrest⟩ := List.map_eq_append_iff.mp hsplit
    obtain ⟨t, later, rfl, rfl, rfl⟩ := List.map_eq_cons_iff.mp hrest
    simpa [Table.withDistinctKey] using h earlier t later rfl k hk

end TableSchema.Validation
