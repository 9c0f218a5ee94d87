import TableSchema.Proofs.Registry.Operations
import TableSchema.Proofs.Validation.Growth

/-!
# Which lists of tables a registry accepts

Tables are accepted one after the other, each checked against those before it. A list is accepted
as a whole exactly if it is coherent and its foreign keys lead to earlier tables, so that the order
of the tables matters only for the targets of foreign keys.
-/

namespace TableSchema.Registry

open Validation

variable {r : Registry} {t : Table} {ts us : List Table}

@[simp] theorem tables_append (r : Registry) (t : Table) : (r.append t).tables = r.tables ++ [t] :=
  rfl

theorem contains_iff {n : String} : r.contains n = true ↔ n ∈ r.tables.map (·.name) := by
  simp [contains, table?, List.find?_isSome]

/-- A table is accepted if its name is new and it has no issues among the tables before it. -/
theorem accept_eq_ok_iff {r' : Registry} :
    r.accept t = .ok r' ↔
      (t.name ∉ r.tables.map (·.name) ∧ tableIssues r.tables t.withDistinctKey = []) ∧
        r.append t.withDistinctKey = r' := by
  unfold accept
  by_cases hname : r.contains t.name = true
  · simp [hname, contains_iff.mp hname]
  · have hnew : t.name ∉ r.tables.map (·.name) := fun h => hname (contains_iff.mpr h)
    cases hissues : tableIssues r.tables t.withDistinctKey with
    | nil => simp [hname, hnew, hissues]
    | cons i is => simp [hname, hissues]

/-- What holds of a registry and is kept when a table is accepted holds after many tables, also if
one of them is refused. -/
theorem acceptAll_induction {P : Registry → Prop} (ts : List Table) (h : P r)
    (step : ∀ r r' t, P r → r.accept t = .ok r' → P r') : P (r.acceptAll ts).1 := by
  induction ts generalizing r with
  | nil => exact h
  | cons t ts ih =>
      cases ha : r.accept t with
      | error e => simpa [acceptAll, ha] using h
      | ok r' => simpa [acceptAll, ha] using ih (step r r' t h ha)

/-- No table is refused exactly if the longer schema is coherent and its targets stand earlier. -/
theorem acceptAll_eq_ok_iff (hc : IsCoherent r.tables) (hts : TargetsEarlier r.tables) :
    (r.acceptAll ts).2 = .ok () ↔
      IsCoherent (r.tables ++ ts.map Table.withDistinctKey) ∧
        TargetsEarlier (r.tables ++ ts.map Table.withDistinctKey) := by
  induction ts generalizing r with
  | nil => simp [acceptAll, hc, hts]
  | cons t ts ih =>
      have hsplit : r.tables ++ (t :: ts).map Table.withDistinctKey =
          (r.tables ++ [t.withDistinctKey]) ++ ts.map Table.withDistinctKey := by
        simp
      have hstep := @isCoherent_concat_iff r.tables t.withDistinctKey
      rw [hsplit]
      cases ha : r.accept t with
      | ok r' =>
          obtain ⟨⟨hnew, hissues⟩, rfl⟩ := accept_eq_ok_iff.mp ha
          obtain ⟨hc', hts'⟩ := hstep.mpr ⟨⟨hc, hts⟩, hnew, hissues⟩
          simpa [acceptAll, ha] using @ih (r.append t.withDistinctKey) hc' hts'
      | error e =>
          -- A longer coherent schema would have this table at the end of a coherent beginning.
          have hrefused : ¬ (IsCoherent (r.tables ++ [t.withDistinctKey]) ∧
              TargetsEarlier (r.tables ++ [t.withDistinctKey])) := by
            intro h
            obtain ⟨-, hnew, hissues⟩ := hstep.mp h
            have hok : r.accept t = .ok (r.append t.withDistinctKey) :=
              accept_eq_ok_iff.mpr ⟨⟨hnew, hissues⟩, rfl⟩
            rw [ha] at hok
            cases hok
          simp only [acceptAll, ha, reduceCtorEq, false_iff]
          exact fun h => hrefused (h.1.of_append h.2)

theorem tables_acceptAll_of_ok (h : (r.acceptAll ts).2 = .ok ()) :
    (r.acceptAll ts).1.tables = r.tables ++ ts.map Table.withDistinctKey := by
  induction ts generalizing r with
  | nil => simp [acceptAll]
  | cons t ts ih =>
      cases ha : r.accept t with
      | error e => simp [acceptAll, ha] at h
      | ok r' =>
          obtain ⟨-, rfl⟩ := accept_eq_ok_iff.mp ha
          simp only [acceptAll, ha] at h ⊢
          simp [ih h]

/-- All tables are added to an empty registry, in their order and without repeats in their primary
keys. -/
def RegistersAll (s : Settings) (trace : Log.Trace) (ts : List Table) : Prop :=
  let answer := ((Session.addTables { settings := s } ts).run trace).1
  answer.2 = .ok () ∧ answer.1.tables = ts.map Table.withDistinctKey

theorem registersAll_iff (s : Settings) (trace : Log.Trace) (ts : List Table) :
    RegistersAll s trace ts ↔ IsCoherent ts ∧ TargetsEarlier ts := by
  have hempty : IsCoherent ([] : List Table) := schemaIssues_eq_nil_iff.mp rfl
  have hok : (acceptAll { settings := s } ts).2 = .ok () ↔ IsCoherent ts ∧ TargetsEarlier ts := by
    rw [acceptAll_eq_ok_iff hempty targetsEarlier_nil, List.nil_append,
      isCoherent_map_withDistinctKey_iff, targetsEarlier_map_withDistinctKey_iff]
  rw [RegistersAll, Session.addTables_run_fst, ← hok]
  exact ⟨And.left, fun h => ⟨h, tables_acceptAll_of_ok h⟩⟩

/-- An empty registry takes all tables exactly if the check of the whole schema finds nothing and
targets stand earlier. So it takes the tables in all orders with earlier targets or in none. -/
theorem registersAll_iff_and_perm (s : Settings) (trace : Log.Trace) (ts : List Table) :
    (RegistersAll s trace ts ↔ schemaIssues ts = [] ∧ TargetsEarlier ts) ∧
      ∀ us, ts.Perm us → TargetsEarlier ts → TargetsEarlier us →
        (RegistersAll s trace ts ↔ RegistersAll s trace us) := by
  refine ⟨?_, fun us hp hts hus => ?_⟩
  · rw [registersAll_iff, schemaIssues_eq_nil_iff]
  · rw [registersAll_iff, registersAll_iff, isCoherent_perm_iff hp]
    simp [hts, hus]

theorem registersAll_tags_accounts_orders :
    [Sample.accounts, Sample.orders, Sample.tags].Perm
        [Sample.tags, Sample.accounts, Sample.orders] ∧
      TargetsEarlier [Sample.accounts, Sample.orders, Sample.tags] ∧
      TargetsEarlier [Sample.tags, Sample.accounts, Sample.orders] ∧
      RegistersAll {} {} [Sample.tags, Sample.accounts, Sample.orders] := by
  have hp : [Sample.accounts, Sample.orders, Sample.tags].Perm
      [Sample.tags, Sample.accounts, Sample.orders] := by
    decide
  have hts : TargetsEarlier [Sample.accounts, Sample.orders, Sample.tags] := by decide
  have hus : TargetsEarlier [Sample.tags, Sample.accounts, Sample.orders] := by decide
  obtain ⟨hiff, hperm⟩ :=
    registersAll_iff_and_perm {} {} [Sample.accounts, Sample.orders, Sample.tags]
  exact ⟨hp, hts, hus, (hperm _ hp hts hus).mp (hiff.mpr ⟨by decide, hts⟩)⟩

/-- Orders come after the accounts that they refer to, or they are not taken. -/
example : schemaIssues [Sample.orders, Sample.accounts] = [] ∧
    ¬ TargetsEarlier [Sample.orders, Sample.accounts] := by
  decide

end TableSchema.Registry
