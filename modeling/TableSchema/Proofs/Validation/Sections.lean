import Mathlib.Data.List.Forall2
import Mathlib.Data.List.ReduceOption
import TableSchema.Proofs.Validation.TableCheck

/-!
# The sections of the check of a table

The check goes through the columns, the primary key, the foreign keys and the declared names of a
table, and no section takes part in another. What a section finds is said here without the walk of
the check: a column is repeated if its name stands at an earlier position, and a pair of columns
gets a verdict from the pairs before it, whatever became of them.
-/

namespace TableSchema

/-- The sections of the check; repeated tables are found by the check of a whole schema. -/
inductive CheckSection where
  | tables
  | columns
  | primaryKey
  | foreignKeys
  | declarations
deriving DecidableEq, Repr

/-- The section that reports issues of a kind. -/
def IssueCode.section : IssueCode → CheckSection
  | .duplicateTable => .tables
  | .duplicateColumn => .columns
  | .missingPrimaryKey | .unknownPrimaryKeyColumn => .primaryKey
  | .unknownForeignKeyColumn | .duplicateForeignKey | .danglingForeignKey
  | .foreignKeyTypeMismatch => .foreignKeys
  | .enumMemberCollision | .typeNameCollision => .declarations

/-- Every element together with the elements before it, which follow those given. -/
def withEarlier {α : Type} (earlier as : List α) : List (List α × α) :=
  as.zipIdx.map fun p => (earlier ++ as.take p.2, p.1)

namespace Validation

/-- The issues that a section of the check finds. -/
def sectionIssues (known : List Table) (t : Table) (s : CheckSection) : List Issue :=
  (tableIssues known t).filter fun i => i.code.section = s

/-- The column is the first one of the table with this name. -/
def IsFirstColumn (t : Table) (name : String) (c : Column) : Prop :=
  t.columns.find? (fun d => d.name = .text name) = some c

/-- The table is the first known one with this name among those that are not named like `t`. -/
def IsFirstTarget (known : List Table) (t : Table) (name : String) (u : Table) : Prop :=
  known.find? (fun v => v.name = name ∧ v.name ≠ t.name) = some u

/-- What is found about a pair of columns of a foreign key after the earlier pairs: one problem at
most. -/
inductive Verdict (known : List Table) (t : Table) (earlier : List (ForeignKey × ColumnReference))
    (k : ForeignKey) (r : ColumnReference) : Option Problem → Prop
  | unknownLocal (hlocal : ∀ c ∈ t.columns, c.name ≠ .text r.localName) :
      Verdict known t earlier k r (some (.unknownLocalColumn k r.localName))
  | repeatedLocal {own : Column} (hown : IsFirstColumn t r.localName own)
      (hrepeat : ∃ p ∈ earlier, p.2.localName = r.localName) :
      Verdict known t earlier k r (some (.repeatedLocalColumn r.localName))
  | noTarget {own : Column} (hown : IsFirstColumn t r.localName own)
      (hnew : ∀ p ∈ earlier, p.2.localName ≠ r.localName)
      (htarget : ∀ u ∈ known, u.name = k.table → u.name = t.name) :
      Verdict known t earlier k r (some (.noForeignTable k))
  | noForeign {own : Column} {target : Table} (hown : IsFirstColumn t r.localName own)
      (hnew : ∀ p ∈ earlier, p.2.localName ≠ r.localName)
      (htarget : IsFirstTarget known t k.table target)
      (hforeign : ∀ c ∈ target.columns, c.name ≠ .text r.foreignName) :
      Verdict known t earlier k r (some (.noForeignColumn k r.foreignName))
  | mismatch {own foreign : Column} {target : Table} (hown : IsFirstColumn t r.localName own)
      (hnew : ∀ p ∈ earlier, p.2.localName ≠ r.localName)
      (htarget : IsFirstTarget known t k.table target)
      (hforeign : IsFirstColumn target r.foreignName foreign)
      (htype : ¬ foreign.type.Same own.type) :
      Verdict known t earlier k r (some (.typeMismatch k r own.type foreign.type))
  | sound {own foreign : Column} {target : Table} (hown : IsFirstColumn t r.localName own)
      (hnew : ∀ p ∈ earlier, p.2.localName ≠ r.localName)
      (htarget : IsFirstTarget known t k.table target)
      (hforeign : IsFirstColumn target r.foreignName foreign)
      (htype : foreign.type.Same own.type) :
      Verdict known t earlier k r none

/-! ## Columns -/

theorem withEarlier_cons {α : Type} (earlier : List α) (a : α) (as : List α) :
    withEarlier earlier (a :: as) = (earlier, a) :: withEarlier (earlier ++ [a]) as := by
  rw [withEarlier, List.zipIdx_cons', List.map_cons, List.map_map]
  simp [withEarlier, Function.comp_def]

theorem columnProblems_eq (earlier names : List Atom) :
    columnProblems earlier names =
      ((withEarlier earlier names).filter fun p => p.1.any (·.same p.2)).map
        fun p => .repeatedColumn p.2 := by
  induction names generalizing earlier with
  | nil => rfl
  | cons a names ih =>
      rw [columnProblems, ih, withEarlier_cons, List.filter_cons]
      cases earlier.any (·.same a) <;> simp

/-! ## Pairs of columns -/

section Pairs

variable {known : List Table} {t : Table} {earlier : List (ForeignKey × ColumnReference)}
  {k : ForeignKey} {r : ColumnReference} {v : Option Problem}

theorem isFirstColumn_iff {name : String} {c : Column} :
    IsFirstColumn t name c ↔ t.column? name = some c := Iff.rfl

theorem column?_eq_none_iff {name : String} :
    t.column? name = none ↔ ∀ c ∈ t.columns, c.name ≠ .text name := by
  simp [Table.column?, Column.isNamed]

/-- A column at the end that repeats a name is never found. -/
theorem find?_isNamed_concat {cs : List Column} {c d : Column} (hd : d ∈ cs)
    (h : c.name = d.name) (n : String) :
    (cs ++ [c]).find? (·.isNamed n) = cs.find? (·.isNamed n) := by
  rw [List.find?_append]
  cases hfind : cs.find? (·.isNamed n) with
  | some e => rfl
  | none =>
      have hnot : d.isNamed n = false := by simpa using List.find?_eq_none.mp hfind d hd
      have hlast : c.isNamed n = false := by rw [← hnot, Column.isNamed, Column.isNamed, h]
      simp [hlast]

theorem isFirstTarget_iff {name : String} {u : Table} :
    IsFirstTarget known t name u ↔ findTable? (others known t.name) name = some u := by
  rw [IsFirstTarget, findTable?, others, List.find?_filter]
  simp [and_comm]

theorem findTable?_others_eq_none_iff {name : String} :
    findTable? (others known t.name) name = none ↔
      ∀ u ∈ known, u.name = name → u.name = t.name := by
  rw [findTable?, others, List.find?_filter, List.find?_eq_none]
  refine forall₂_congr fun u _ => ?_
  simp [not_imp_not]

/-- The check finds what the verdict says. -/
theorem Verdict.eq (h : Verdict known t earlier k r v) :
    pairProblem? known t (earlier.map (·.2.localName)) (k, r) = v := by
  have hrepeat : (∃ p ∈ earlier, p.2.localName = r.localName) →
      (earlier.map (·.2.localName)).contains r.localName = true := by
    simp
  have hnew : (∀ p ∈ earlier, p.2.localName ≠ r.localName) →
      (earlier.map (·.2.localName)).contains r.localName = false := by
    simp
  rw [pairProblem?]
  simp only [targetProblem?, findOther?_eq]
  cases h with
  | unknownLocal hlocal => rw [column?_eq_none_iff.mpr hlocal]
  | repeatedLocal hown h => simp only [isFirstColumn_iff.mp hown, hrepeat h, if_true]
  | noTarget hown h htarget =>
      simp only [isFirstColumn_iff.mp hown, hnew h, Bool.false_eq_true, if_false,
        findTable?_others_eq_none_iff.mpr htarget]
  | noForeign hown h htarget hforeign =>
      simp only [isFirstColumn_iff.mp hown, hnew h, Bool.false_eq_true, if_false,
        isFirstTarget_iff.mp htarget, column?_eq_none_iff.mpr hforeign]
  | mismatch hown h htarget hforeign htype =>
      simp only [isFirstColumn_iff.mp hown, hnew h, Bool.false_eq_true, if_false,
        isFirstTarget_iff.mp htarget, isFirstColumn_iff.mp hforeign, htype]
  | sound hown h htarget hforeign htype =>
      simp only [isFirstColumn_iff.mp hown, hnew h, Bool.false_eq_true, if_false,
        isFirstTarget_iff.mp htarget, isFirstColumn_iff.mp hforeign, htype, if_true]

/-- There is a verdict on every pair. -/
theorem exists_verdict (known : List Table) (t : Table)
    (earlier : List (ForeignKey × ColumnReference)) (k : ForeignKey) (r : ColumnReference) :
    ∃ v, Verdict known t earlier k r v := by
  cases hown : t.column? r.localName with
  | none => exact ⟨_, .unknownLocal (column?_eq_none_iff.mp hown)⟩
  | some own =>
      by_cases hrepeat : ∃ p ∈ earlier, p.2.localName = r.localName
      · exact ⟨_, .repeatedLocal hown hrepeat⟩
      · have hnew : ∀ p ∈ earlier, p.2.localName ≠ r.localName :=
          fun p hp heq => hrepeat ⟨p, hp, heq⟩
        cases hfind : findTable? (others known t.name) k.table with
        | none => exact ⟨_, .noTarget hown hnew (findTable?_others_eq_none_iff.mp hfind)⟩
        | some target =>
            have htarget := isFirstTarget_iff.mpr hfind
            cases hforeign : target.column? r.foreignName with
            | none => exact ⟨_, .noForeign hown hnew htarget (column?_eq_none_iff.mp hforeign)⟩
            | some foreign =>
                by_cases htype : foreign.type.Same own.type
                · exact ⟨_, .sound hown hnew htarget hforeign htype⟩
                · exact ⟨_, .mismatch hown hnew htarget hforeign htype⟩

/-- The check gives every pair its verdict. -/
theorem verdict_iff :
    Verdict known t earlier k r v ↔
      pairProblem? known t (earlier.map (·.2.localName)) (k, r) = v := by
  refine ⟨Verdict.eq, ?_⟩
  rintro rfl
  obtain ⟨v, hv⟩ := exists_verdict known t earlier k r
  exact hv.eq ▸ hv

/-- The walk through the pairs finds the verdicts in their order. -/
theorem pairProblems_eq (known : List Table) (t : Table)
    (earlier ps : List (ForeignKey × ColumnReference)) :
    pairProblems known t (earlier.map (·.2.localName)) ps =
      (withEarlier earlier ps).filterMap fun p =>
        pairProblem? known t (p.1.map (·.2.localName)) p.2 := by
  induction ps generalizing earlier with
  | nil => rfl
  | cons p ps ih =>
      have hstep : earlier.map (·.2.localName) ++ [p.2.localName] =
          (earlier ++ [p]).map (·.2.localName) := by
        simp
      rw [pairProblems, hstep, ih, withEarlier_cons, List.filterMap_cons]
      cases pairProblem? known t (earlier.map (·.2.localName)) p <;> rfl

theorem exists_verdicts (known : List Table) (t : Table) :
    ∃ verdicts : List (Option Problem),
      List.Forall₂ (fun p v => Verdict known t p.1 p.2.1 p.2.2 v) (withEarlier [] (pairs t))
        verdicts ∧ pairProblems known t [] (pairs t) = verdicts.reduceOption := by
  refine ⟨(withEarlier [] (pairs t)).map fun p =>
    pairProblem? known t (p.1.map (·.2.localName)) p.2, ?_, ?_⟩
  · rw [List.forall₂_map_right_iff]
    exact List.forall₂_same.mpr fun p _ => verdict_iff.mpr rfl
  · have hpairs := pairProblems_eq known t [] (pairs t)
    rw [List.map_nil] at hpairs
    rw [hpairs, List.reduceOption, List.filterMap_map]
    rfl

end Pairs

/-! ## Sections -/

section Sections

variable {known : List Table} {t : Table} {s : CheckSection} {ps : List Problem}

/-- The issues of a section among those of problems that all belong to one section. -/
theorem filter_map_issue_of_section {u : CheckSection} (name : String)
    (h : ∀ p ∈ ps, p.code.section = u) :
    ((ps.map (Problem.issue name)).filter fun i => i.code.section = s) =
      if u = s then ps.map (Problem.issue name) else [] := by
  have hsection : ∀ i ∈ ps.map (Problem.issue name), i.code.section = u :=
    List.forall_mem_map.mpr h
  split
  · rename_i hu
    rw [List.filter_eq_self]
    intro i hi
    simpa [hu] using hsection i hi
  · rename_i hu
    rw [List.filter_eq_nil_iff]
    intro i hi
    simpa [hsection i hi] using hu

theorem section_of_mem_columnProblems {earlier names : List Atom} :
    ∀ p ∈ columnProblems earlier names, p.code.section = .columns := by
  rw [columnProblems_eq, List.forall_mem_map]
  exact fun _ _ => rfl

theorem section_of_mem_keyProblems : ∀ p ∈ keyProblems t, p.code.section = .primaryKey := by
  unfold keyProblems
  split
  · exact List.forall_mem_singleton.mpr rfl
  · exact List.forall_mem_map.mpr fun _ _ => rfl

theorem Verdict.section_eq {earlier : List (ForeignKey × ColumnReference)} {k : ForeignKey}
    {r : ColumnReference} {p : Problem} (h : Verdict known t earlier k r (some p)) :
    p.code.section = .foreignKeys := by
  cases h <;> rfl

theorem section_of_mem_pairProblems :
    ∀ p ∈ pairProblems known t [] (pairs t), p.code.section = .foreignKeys := by
  have hpairs := pairProblems_eq known t [] (pairs t)
  rw [List.map_nil] at hpairs
  rw [hpairs]
  intro p hp
  obtain ⟨q, -, hq⟩ := List.mem_filterMap.mp hp
  exact (verdict_iff.mpr hq).section_eq

theorem section_of_mem_memberProblems :
    ∀ p ∈ memberProblems t, p.code.section = .declarations := by
  intro p hp
  obtain ⟨e, -, hp⟩ := List.mem_flatMap.mp hp
  obtain ⟨c, -, rfl⟩ := List.mem_map.mp hp
  rfl

theorem section_of_mem_nameProblems (declared es : List (String × Owner)) :
    ∀ p ∈ nameProblems declared es, p.code.section = .declarations := by
  induction es generalizing declared with
  | nil => exact List.forall_mem_nil _
  | cons e es ih =>
      rw [nameProblems, List.forall_mem_append]
      refine ⟨fun p hp => ?_, ih _⟩
      rw [Option.mem_toList, nameProblem?] at hp
      split at hp
      · split at hp
        · cases hp
        · obtain rfl := Option.some.inj hp
          rfl
      · cases hp

/-- The problems of the names that the table declares. -/
def declarationProblems (known : List Table) (t : Table) : List Problem :=
  memberProblems t ++ nameProblems (namesOfOthers t.name known) (declaredNames t)

theorem section_of_mem_declarationProblems :
    ∀ p ∈ declarationProblems known t, p.code.section = .declarations :=
  List.forall_mem_append.mpr ⟨section_of_mem_memberProblems, section_of_mem_nameProblems _ _⟩

/-- The problems that a section finds. -/
def sectionProblems (known : List Table) (t : Table) : CheckSection → List Problem
  | .tables => []
  | .columns => columnProblems [] t.columnNames
  | .primaryKey => keyProblems t
  | .foreignKeys => pairProblems known t [] (pairs t)
  | .declarations => declarationProblems known t

theorem sectionIssues_eq (known : List Table) (t : Table) (s : CheckSection) :
    sectionIssues known t s = (sectionProblems known t s).map (Problem.issue t.name) := by
  have hproblems : problems known t = sectionProblems known t .columns ++
      (sectionProblems known t .primaryKey ++ (sectionProblems known t .foreignKeys ++
        sectionProblems known t .declarations)) := by
    simp [problems, sectionProblems, declarationProblems]
  rw [sectionIssues, tableIssues, hproblems]
  simp only [List.map_append, List.filter_append, sectionProblems,
    filter_map_issue_of_section t.name section_of_mem_columnProblems,
    filter_map_issue_of_section t.name section_of_mem_keyProblems,
    filter_map_issue_of_section t.name section_of_mem_pairProblems,
    filter_map_issue_of_section t.name section_of_mem_declarationProblems]
  cases s <;> simp

theorem tableIssues_eq_flatMap (known : List Table) (t : Table) :
    tableIssues known t =
      [.columns, .primaryKey, .foreignKeys, .declarations].flatMap (sectionIssues known t) := by
  simp [sectionIssues_eq, sectionProblems, tableIssues, problems, declarationProblems]

theorem keyProblems_eq (t : Table) :
    keyProblems t = if t.primaryKeys = [] then [.noPrimaryKey]
      else (t.primaryKeys.filter fun k => .text k ∉ t.columnNames).map .unknownKeyColumn := by
  have hcolumn (k : String) : (!t.hasColumn k) = decide (.text k ∉ t.columnNames) := by
    have hmem : t.hasColumn k = true ↔ .text k ∈ t.columnNames := by
      rw [Table.hasColumn_iff, Table.columnNames, List.mem_map]
    rw [Bool.eq_iff_iff, decide_eq_true_iff, ← hmem, Bool.not_eq_true', Bool.not_eq_true]
  simp only [keyProblems, List.isEmpty_iff, hcolumn]

/-- The primary key is checked against the names of the columns only. -/
theorem keyProblems_congr {u : Table} (hkeys : u.primaryKeys = t.primaryKeys)
    (hcolumns : ∀ n, u.hasColumn n = t.hasColumn n) : keyProblems u = keyProblems t := by
  simp only [keyProblems, hkeys, hcolumns]

/-- Foreign keys are checked against the first columns of their names only. -/
theorem pairProblems_congr {u : Table} (hname : u.name = t.name)
    (hcolumns : ∀ n, u.column? n = t.column? n) (earlier : List String)
    (pairs : List (ForeignKey × ColumnReference)) :
    pairProblems known u earlier pairs = pairProblems known t earlier pairs := by
  induction pairs generalizing earlier with
  | nil => rfl
  | cons p pairs ih =>
      simp only [pairProblems, pairProblem?, targetProblem?, hname, hcolumns, ih]

end Sections

/-- The check of a table reports, section by section: every column whose name stands at an earlier
position; that there is no primary key, or else every listed key that is no column; the verdicts on
the pairs of columns of all foreign keys in their order; and what concerns the declared names. A
section finds the same in every table that has the same data for it. -/
theorem tableIssues_by_section (known : List Table) (t : Table) :
    tableIssues known t =
        [.columns, .primaryKey, .foreignKeys, .declarations].flatMap (sectionIssues known t) ∧
      sectionIssues known t .columns =
        ((withEarlier [] t.columnNames).filter fun p => p.1.any (·.same p.2)).map
          (fun p => Problem.issue t.name (.repeatedColumn p.2)) ∧
      sectionIssues known t .primaryKey =
        (if t.primaryKeys = [] then [.noPrimaryKey]
        else (t.primaryKeys.filter fun k => .text k ∉ t.columnNames).map .unknownKeyColumn).map
          (Problem.issue t.name) ∧
      (∃ verdicts : List (Option Problem),
        List.Forall₂ (fun p v => Verdict known t p.1 p.2.1 p.2.2 v) (withEarlier [] (pairs t))
          verdicts ∧
        sectionIssues known t .foreignKeys =
          verdicts.reduceOption.map (Problem.issue t.name)) ∧
      ∀ known' u, u.name = t.name →
        (u.columnNames = t.columnNames →
          sectionIssues known' u .columns = sectionIssues known t .columns) ∧
        (u.primaryKeys = t.primaryKeys → (∀ n, u.hasColumn n = t.hasColumn n) →
          sectionIssues known' u .primaryKey = sectionIssues known t .primaryKey) ∧
        (u.foreignKeys = t.foreignKeys → (∀ n, u.column? n = t.column? n) →
          sectionIssues known u .foreignKeys = sectionIssues known t .foreignKeys) := by
  obtain ⟨verdicts, hverdicts, hpairs⟩ := exists_verdicts known t
  refine ⟨tableIssues_eq_flatMap known t, ?_, ?_, ⟨verdicts, hverdicts, ?_⟩,
    fun known' u hname => ⟨fun hnames => ?_, fun hkeys hcolumns => ?_, fun hkeys hcolumns => ?_⟩⟩
  · rw [sectionIssues_eq, sectionProblems, columnProblems_eq, List.map_map]
    rfl
  · rw [sectionIssues_eq, sectionProblems, keyProblems_eq]
  · rw [sectionIssues_eq, sectionProblems, hpairs]
  · rw [sectionIssues_eq, sectionIssues_eq, sectionProblems, sectionProblems, hname, hnames]
  · rw [sectionIssues_eq, sectionIssues_eq, sectionProblems, sectionProblems, hname,
      keyProblems_congr hkeys hcolumns]
  · rw [sectionIssues_eq, sectionIssues_eq, sectionProblems, sectionProblems, hname,
      pairProblems_congr hname hcolumns, pairs, pairs, hkeys]

/-- Payments that repeat a column, have no primary key and hold four pairs of columns: the first one
lacks its own column, the second one its target, and the third one repeats the second, so that only
the fourth is sound. Without the repeated column and with a key the pairs fare as before. -/
theorem tableIssues_payments :
    let number : Column := ⟨.text "number", .scalar .integer, false, none⟩
    let user : Column := ⟨.text "user", .scalar .uuid, false, none⟩
    let key (table : String) (h : table ≠ "") (r : ColumnReference) : ForeignKey :=
      ⟨table, [r], none, none, h, by simp⟩
    let pair (l f : String) (hl : l ≠ "") (hf : f ≠ "") : ColumnReference := ⟨l, f, hl, hf⟩
    let users : Table := ⟨"users", "User", [⟨.text "id", .scalar .uuid, false, none⟩], ["id"], [],
      [], by decide, by decide⟩
    let payments : Table := ⟨"payments", "Payment",
      [number, user, { number with nullable := true }], [],
      [key "users" (by decide) (pair "buyer" "id" (by decide) (by decide)),
        key "orders" (by decide) (pair "number" "id" (by decide) (by decide)),
        key "users" (by decide) (pair "number" "id" (by decide) (by decide)),
        key "users" (by decide) (pair "user" "id" (by decide) (by decide))], [],
      by decide, by decide⟩
    let repaired : Table := { payments with columns := [number, user], primaryKeys := ["number"] }
    (tableIssues [users] payments).map (·.code) =
        [.duplicateColumn, .missingPrimaryKey, .unknownForeignKeyColumn, .danglingForeignKey,
          .duplicateForeignKey] ∧
      sectionIssues [users] repaired .foreignKeys =
        sectionIssues [users] payments .foreignKeys := by
  intro number user key pair users payments repaired
  have hcolumns (n : String) : repaired.column? n = payments.column? n :=
    (@find?_isNamed_concat [number, user] { number with nullable := true } number
      List.mem_cons_self rfl n).symm
  exact ⟨by decide +kernel,
    ((tableIssues_by_section [users] payments).2.2.2.2 [users] repaired rfl).2.2 rfl hcolumns⟩

end Validation

end TableSchema
