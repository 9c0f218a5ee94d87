import TableSchema.Proofs.Validation.Coherence

/-!
# Tables of the same name in the check of a table

The check of a table looks at known tables in two places: when it searches the target of a foreign
key, and when it collects the names that others declare in TypeScript. In both it passes over the
tables that are named like the one that is checked, so these have no part in what is found, and a
table in the schema is found to have the problems that it had before it was put there.
-/

namespace TableSchema.Validation

variable {known registered : List Table} {t : Table}

theorem others_eq_filter (ts : List Table) (n : String) :
    others ts n = ts.filter fun u => u.name ≠ n :=
  List.filter_congr fun u _ => Bool.eq_iff_iff.mpr (by simp)

/-- Both places see only the tables with other names. -/
theorem findOther?_congr {exclude : String} (h : others registered exclude = others known exclude)
    (name : String) : findOther? registered exclude name = findOther? known exclude name := by
  rw [findOther?_eq, findOther?_eq, h]

theorem namesOfOthers_congr {exclude : String}
    (h : others registered exclude = others known exclude) :
    namesOfOthers exclude registered = namesOfOthers exclude known := by
  rw [namesOfOthers_eq, namesOfOthers_eq, h]

theorem pairProblem?_congr_of_others (h : others registered t.name = others known t.name)
    (earlier : List String) (p : ForeignKey × ColumnReference) :
    pairProblem? registered t earlier p = pairProblem? known t earlier p := by
  unfold pairProblem? targetProblem?
  rw [findOther?_congr h]

theorem pairProblems_congr_of_others (h : others registered t.name = others known t.name)
    (earlier : List String) (ps : List (ForeignKey × ColumnReference)) :
    pairProblems registered t earlier ps = pairProblems known t earlier ps := by
  induction ps generalizing earlier with
  | nil => rfl
  | cons p ps ih => rw [pairProblems, pairProblems, pairProblem?_congr_of_others h, ih]

theorem tableIssues_congr_of_others (h : others registered t.name = others known t.name) :
    tableIssues registered t = tableIssues known t := by
  unfold tableIssues problems
  rw [pairProblems_congr_of_others h, namesOfOthers_congr h]

/-- The check of a schema goes through its parts one after the other. -/
theorem issuesFrom_append (schema : List Table) (earlier : List String) (ts us : List Table) :
    issuesFrom schema earlier (ts ++ us) =
      issuesFrom schema earlier ts ++ issuesFrom schema (earlier ++ ts.map (·.name)) us := by
  induction ts generalizing earlier with
  | nil => simp [issuesFrom]
  | cons t ts ih =>
      rw [List.cons_append, issuesFrom, ih, issuesFrom, List.map_cons]
      simp only [List.append_assoc, List.singleton_append]

/-- Known tables that agree but for tables of its own name give a table the same issues. So it has
the same issues before it is registered and after it has been put into a schema, beside itself and
others of its name: there the check of the whole schema reports them at its place, after the
repetition of its name if an earlier table has it. -/
theorem tableIssues_of_namesakes (t : Table) (known registered : List Table)
    (h : registered.filter (fun u => u.name ≠ t.name) =
      known.filter (fun u => u.name ≠ t.name)) :
    tableIssues registered t = tableIssues known t ∧
      ∀ before after, registered = before ++ t :: after →
        schemaIssues registered =
          issuesFrom registered [] before ++
            ((if t.name ∈ before.map (·.name) then [Problem.repeatedTable.issue t.name] else []) ++
              tableIssues known t) ++
            issuesFrom registered (before.map (·.name) ++ [t.name]) after := by
  have hothers : others registered t.name = others known t.name := by
    rw [others_eq_filter, others_eq_filter, h]
  have hissues := tableIssues_congr_of_others hothers
  refine ⟨hissues, fun before after hsplit => ?_⟩
  have hwalk := issuesFrom_append registered [] before (t :: after)
  rw [← hsplit, List.nil_append] at hwalk
  rw [schemaIssues, hwalk, issuesFrom, hissues]
  simp only [List.contains_iff_mem, List.append_assoc]

/-- Staff whose superiors are staff, and an older table of the name that knows no persons: before it
is registered and beside the older table and itself the self-reference is dangling. -/
theorem tableIssues_staff :
    let key : ForeignKey :=
      ⟨"staff", [⟨"superior", "id", by decide, by decide⟩], none, none, by decide, by decide⟩
    let staff : Table := ⟨"staff", "Person", [⟨.text "id", .scalar .uuid, false, none⟩,
      ⟨.text "superior", .scalar .uuid, true, none⟩], ["id"], [key], [], by decide, by decide⟩
    let older : Table := { Sample.tags with name := "staff", name_fits := by decide }
    (tableIssues [Sample.accounts] staff).map (·.code) = [.danglingForeignKey] ∧
      tableIssues [older, Sample.accounts, staff] staff = tableIssues [Sample.accounts] staff := by
  intro key staff older
  have h : [older, Sample.accounts, staff].filter (fun u => u.name ≠ staff.name) =
      [Sample.accounts].filter (fun u => u.name ≠ staff.name) := by
    decide
  exact ⟨by decide +kernel,
    (tableIssues_of_namesakes staff [Sample.accounts] [older, Sample.accounts, staff] h).1⟩

end TableSchema.Validation
