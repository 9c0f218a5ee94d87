import TableSchema.Proofs.Occurrences
import TableSchema.Validation

/-!
# The check of one table spelled out

A table passes its check among known tables exactly if it is well formed by itself, its foreign
keys find their targets, and it is the first owner of every name that it declares.

## Implementation notes

The conditions of this module search like the check: the first column and the first table of a
name count. Under distinct names a search finds whatever there is, so that the conditions on whole
schemas can speak of membership alone.
-/

namespace TableSchema

theorem Atom.same_text_self (s : String) : (Atom.text s).same (.text s) = true := by
  simp [Atom.same, Atom.quantity?]

namespace Table

/-- The conditions on a table that no other table has a part in. -/
structure IsWellFormed (t : Table) : Prop where
  /-- No two columns have the same name. -/
  columns_distinct : t.columnNames.Pairwise fun a b => a.same b = false
  key_ne_nil : t.primaryKeys ≠ []
  key_known : ∀ k ∈ t.primaryKeys, ∃ c ∈ t.columns, c.name = .text k
  /-- No column is the local one of two pairs, be it in one foreign key or in two. -/
  locals_nodup : (t.foreignKeys.flatMap ForeignKey.localColumns).Nodup
  /-- The first declaration of an enumeration has a member of its own for every value. -/
  members_nodup : ∀ n e, t.columnEnums.find? (fun d => d.name == n) = some e →
    e.memberNames.Nodup

/-- The table declares the name for the owner: its own record type or an enumeration it uses. -/
def Declares (t : Table) (name : String) (o : Owner) : Prop :=
  (name = t.typeName ∧ o = .table t.name) ∨
    ∃ e ∈ t.columnEnums, name = e.typescriptName ∧ o = .enumeration e.name

theorem IsWellFormed.names_nodup {t : Table} (h : t.IsWellFormed) {names : List String}
    (hnames : t.columnNames = names.map .text) : names.Nodup := by
  have hdistinct := h.columns_distinct
  rw [hnames, List.pairwise_map] at hdistinct
  refine hdistinct.imp fun hmn e => ?_
  rw [e, Atom.same_text_self] at hmn
  cases hmn

theorem column?_eq_some {t : Table} {n : String} {c : Column} (h : t.column? n = some c) :
    c ∈ t.columns ∧ c.name = .text n :=
  ⟨List.mem_of_find?_eq_some h, by simpa [Column.isNamed] using List.find?_some h⟩

theorem hasColumn_iff {t : Table} {n : String} :
    t.hasColumn n = true ↔ ∃ c ∈ t.columns, c.name = .text n := by
  simp [hasColumn, column?, Column.isNamed, List.find?_isSome]

private theorem find?_isNamed {n : String} {c : Column} {cs : List Column}
    (h : cs.Pairwise fun a b => a.name.same b.name = false) (hc : c ∈ cs)
    (hn : c.name = .text n) : cs.find? (·.isNamed n) = some c := by
  induction cs with
  | nil => simp at hc
  | cons d ds ih =>
      obtain ⟨hd, hds⟩ := List.pairwise_cons.mp h
      by_cases hdn : d.name = .text n
      · rcases List.mem_cons.mp hc with rfl | hcd
        · simp [Column.isNamed, hdn]
        · have hsame := hd c hcd
          rw [hdn, hn, Atom.same_text_self] at hsame
          cases hsame
      · have hne : c ≠ d := fun e => hdn (e ▸ hn)
        rw [List.find?_cons_of_neg (by simpa [Column.isNamed] using hdn)]
        exact ih hds ((List.mem_cons.mp hc).resolve_left hne)

/-- Among distinct names the first column of a name is the only one. -/
theorem column?_eq_some_iff {t : Table} (h : t.IsWellFormed) {n : String} {c : Column} :
    t.column? n = some c ↔ c ∈ t.columns ∧ c.name = .text n :=
  ⟨column?_eq_some, fun hc => find?_isNamed (List.pairwise_map.mp h.columns_distinct) hc.1 hc.2⟩

end Table

namespace Validation

variable {known : List Table} {t : Table}

/-- The search of the check for the target of a pair of columns succeeds with a column of the same
type. -/
def FindsTarget (known : List Table) (t : Table) (k : ForeignKey) (p : ColumnReference) : Prop :=
  ∃ own, t.column? p.localName = some own ∧
    ∃ target, findTable? (others known t.name) k.table = some target ∧
      ∃ foreign, target.column? p.foreignName = some foreign ∧ foreign.type.Same own.type

/-- After the other known tables the table is the first owner of all names that it declares. -/
def OwnsNames (known : List Table) (t : Table) : Prop :=
  ∀ n o, t.Declares n o →
    lookupFirst n ((others known t.name ++ [t]).flatMap declaredNames) = some o

theorem columnProblems_eq_nil_iff (earlier as : List Atom) :
    columnProblems earlier as = [] ↔
      (∀ e ∈ earlier, ∀ a ∈ as, e.same a = false) ∧ as.Pairwise fun a b => a.same b = false := by
  induction as generalizing earlier with
  | nil => simp [columnProblems]
  | cons a as ih =>
      have hhead : (if earlier.any (·.same a) then [Problem.repeatedColumn a] else []) = [] ↔
          ∀ e ∈ earlier, e.same a = false := by
        simp
      rw [columnProblems, List.append_eq_nil_iff, hhead, ih, List.pairwise_cons]
      constructor
      · rintro ⟨hnew, hrest, hpair⟩
        refine ⟨fun e he b hb => ?_, fun b hb => hrest a (by simp) b hb, hpair⟩
        rcases List.mem_cons.mp hb with rfl | hb
        · exact hnew e he
        · exact hrest e (by simp [he]) b hb
      · rintro ⟨hnew, hfirst, hpair⟩
        refine ⟨fun e he => hnew e he a (by simp), fun e he b hb => ?_, hpair⟩
        rcases List.mem_append.mp he with he | he
        · exact hnew e he b (by simp [hb])
        · rw [List.mem_singleton.mp he]
          exact hfirst b hb

theorem keyProblems_eq_nil_iff :
    keyProblems t = [] ↔
      t.primaryKeys ≠ [] ∧ ∀ k ∈ t.primaryKeys, ∃ c ∈ t.columns, c.name = .text k := by
  unfold keyProblems
  by_cases hk : t.primaryKeys = []
  · simp [hk]
  · simp [hk, ← Table.hasColumn_iff]

theorem targetProblem?_eq_none_iff {k : ForeignKey} {p : ColumnReference} {own : Column} :
    targetProblem? known t k p own = none ↔
      ∃ target, findTable? (others known t.name) k.table = some target ∧
        ∃ foreign, target.column? p.foreignName = some foreign ∧
          foreign.type.Same own.type := by
  rw [targetProblem?, findOther?_eq]
  cases findTable? (others known t.name) k.table with
  | none => simp
  | some target =>
      cases hf : target.column? p.foreignName with
      | none => simp [hf]
      | some foreign => simp [hf]

theorem pairProblem?_eq_none_iff {earlier : List String} {p : ForeignKey × ColumnReference} :
    pairProblem? known t earlier p = none ↔
      p.2.localName ∉ earlier ∧ FindsTarget known t p.1 p.2 := by
  unfold pairProblem? FindsTarget
  cases t.column? p.2.localName with
  | none => simp
  | some own =>
      by_cases he : p.2.localName ∈ earlier
      · simp [he]
      · simp [he, targetProblem?_eq_none_iff]

theorem pairProblems_eq_nil_iff (earlier : List String)
    (ps : List (ForeignKey × ColumnReference)) :
    pairProblems known t earlier ps = [] ↔
      (∀ p ∈ ps, p.2.localName ∉ earlier) ∧ (ps.map (·.2.localName)).Nodup ∧
        ∀ p ∈ ps, FindsTarget known t p.1 p.2 := by
  induction ps generalizing earlier with
  | nil => simp [pairProblems]
  | cons p ps ih =>
      rw [pairProblems, List.append_eq_nil_iff, Option.toList_eq_nil_iff,
        pairProblem?_eq_none_iff, ih, List.map_cons, List.nodup_cons]
      simp only [List.mem_append, List.mem_singleton, not_or, List.forall_mem_cons, List.mem_map,
        not_exists, not_and]
      constructor
      · rintro ⟨⟨hp, htarget⟩, hnew, hnodup, htargets⟩
        exact ⟨⟨hp, fun q hq => (hnew q hq).1⟩, ⟨fun q hq => (hnew q hq).2, hnodup⟩,
          htarget, htargets⟩
      · rintro ⟨⟨hp, hnew⟩, ⟨hfirst, hnodup⟩, htarget, htargets⟩
        exact ⟨⟨hp, htarget⟩, fun q hq => ⟨hnew q hq, hfirst q hq⟩, hnodup, htargets⟩

theorem map_pairs_localName :
    (pairs t).map (·.2.localName) = t.foreignKeys.flatMap ForeignKey.localColumns := by
  simp only [pairs, List.map_flatMap, List.map_map]
  rfl

theorem forall_mem_pairs {P : ForeignKey × ColumnReference → Prop} :
    (∀ p ∈ pairs t, P p) ↔ ∀ k ∈ t.foreignKeys, ∀ p ∈ k.columns, P (k, p) := by
  simp only [pairs, List.mem_flatMap, List.mem_map]
  constructor
  · intro h k hk p hp
    exact h _ ⟨k, hk, p, hp, rfl⟩
  · rintro h _ ⟨k, hk, p, hp, rfl⟩
    exact h k hk p hp

theorem memberCollisions_eq_nil_iff {e : EnumType} :
    e.memberCollisions = [] ↔ e.memberNames.Nodup := by
  rw [EnumType.memberCollisions, grouped_filter_eq_nil_iff]
  simp [EnumType.memberNames, Function.comp_def]

theorem memberProblems_eq_nil_iff :
    memberProblems t = [] ↔
      ∀ n e, t.columnEnums.find? (fun d => d.name == n) = some e → e.memberNames.Nodup := by
  simp only [memberProblems, List.flatMap_eq_nil_iff, List.map_eq_nil_iff,
    memberCollisions_eq_nil_iff, Table.enumTypes, mem_firstsBy]
  constructor
  · intro h n e he
    have hn : e.name = n := by simpa using List.find?_some he
    exact h e (hn ▸ he)
  · intro h e he
    exact h e.name e he

/-- What is declared are the first names of record types and enumerations with their owners. -/
theorem mem_declaredNames {n : String} {o : Owner} :
    (n, o) ∈ declaredNames t ↔ t.Declares n o := by
  have hkept (e : EnumType) (he : e ∈ t.columnEnums) : ∃ d ∈ t.enumTypes, d.name = e.name := by
    have hm : e.name ∈ t.enumTypes.map (·.name) := by
      rw [Table.enumTypes, map_firstsBy, mem_firsts]
      exact List.mem_map_of_mem he
    simpa using hm
  have hsub (e : EnumType) (he : e ∈ t.enumTypes) : e ∈ t.columnEnums :=
    List.mem_of_find?_eq_some (mem_firstsBy.mp he)
  simp only [declaredNames, Table.Declares, List.mem_cons, Prod.mk.injEq, List.mem_map]
  refine or_congr Iff.rfl ⟨?_, ?_⟩
  · rintro ⟨e, he, rfl, rfl⟩
    exact ⟨e, hsub e he, rfl, rfl⟩
  · rintro ⟨e, he, rfl, rfl⟩
    obtain ⟨d, hd, hde⟩ := hkept e he
    exact ⟨d, hd, by simp [EnumType.typescriptName, hde], by rw [hde]⟩

theorem nameProblems_eq_nil_iff (declared es : List (String × Owner)) :
    nameProblems declared es = [] ↔ ∀ e ∈ es, lookupFirst e.1 (declared ++ es) = some e.2 := by
  induction es generalizing declared with
  | nil => simp [nameProblems]
  | cons e es ih =>
      have hhead : nameProblem? declared e = none ↔
          lookupFirst e.1 (declared ++ e :: es) = some e.2 := by
        rw [nameProblem?, lookupFirst_append]
        cases lookupFirst e.1 declared with
        | none => simp [lookupFirst]
        | some o => by_cases ho : o = e.2 <;> simp [ho]
      rw [nameProblems, List.append_eq_nil_iff, Option.toList_eq_nil_iff, hhead, ih]
      simp

/-- The check reports nothing exactly if the table is well formed, its keys find their targets and
it owns its names. -/
theorem tableIssues_eq_nil_iff (known : List Table) (t : Table) :
    tableIssues known t = [] ↔
      t.IsWellFormed ∧ (∀ k ∈ t.foreignKeys, ∀ p ∈ k.columns, FindsTarget known t k p) ∧
        OwnsNames known t := by
  have hnames : nameProblems ((others known t.name).flatMap declaredNames) (declaredNames t) = [] ↔
      OwnsNames known t := by
    rw [nameProblems_eq_nil_iff, OwnsNames]
    simp [List.flatMap_append, ← mem_declaredNames]
  rw [tableIssues, List.map_eq_nil_iff]
  simp only [problems, namesOfOthers_eq, List.append_eq_nil_iff, columnProblems_eq_nil_iff,
    keyProblems_eq_nil_iff, pairProblems_eq_nil_iff, memberProblems_eq_nil_iff, hnames,
    map_pairs_localName, forall_mem_pairs]
  constructor
  · rintro ⟨⟨⟨⟨⟨-, hcolumns⟩, hkey, hknown⟩, -, hlocals, htargets⟩, hmembers⟩, howns⟩
    exact ⟨⟨hcolumns, hkey, hknown, hlocals, hmembers⟩, htargets, howns⟩
  · rintro ⟨hform, htargets, howns⟩
    exact ⟨⟨⟨⟨⟨by simp, hform.columns_distinct⟩, hform.key_ne_nil, hform.key_known⟩, by simp,
      hform.locals_nodup, htargets⟩, hform.members_nodup⟩, howns⟩

end Validation

end TableSchema
