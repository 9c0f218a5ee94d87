import TableSchema.Proofs.Registry.Records
import TableSchema.Proofs.Validation.Coherence

/-!
# Reports of issues

Issues are grouped by their tables twice: by the error that carries them, and by the registry when
it logs them. Each goes through the issues once and puts every message after those of its table, so
both have the tables in the order in which they come first and the messages of a table in the order
of its issues, however the tables alternate; and the log shows the groups that the error carries.
-/

namespace TableSchema

open Log Validation

/-- The issues of a refusal, if it is because of issues. -/
def RegistrationError.issues? : RegistrationError → Option (List Issue)
  | .duplicateTable _ => none
  | .invalid issues => some issues

/-- The issues because of which a document is not loaded as a whole. -/
def LoadError.issues? : LoadError → Option (List Issue)
  | .file _ _ => none
  | .registration e => e.issues?

/-- The issues because of which no text is generated. -/
def GenerationError.issues? : GenerationError → Option (List Issue)
  | .invalid issues => some issues
  | .sql _ | .typescript _ => none

namespace Issue

/-- The issues of a table. -/
def ofTable (issues : List Issue) (table : String) : List Issue :=
  issues.filter fun i => i.table = table

theorem messages_eq_grouped (issues : List Issue) :
    messages issues = grouped (issues.map fun i => (i.table, i.message)) := by
  have hfold := foldl_addTo_grouped [] (issues.map fun i => (i.table, i.message))
  rw [List.foldl_map] at hfold
  exact hfold

/-- The groups are the tables in the order in which they come first, each with the messages of its
issues. -/
theorem messages_eq (issues : List Issue) :
    messages issues = (firsts (issues.map (·.table))).map fun n =>
      (n, (ofTable issues n).map (·.message)) := by
  have htables : (issues.map fun i => (i.table, i.message)).map (·.1) = issues.map (·.table) := by
    rw [List.map_map]
    rfl
  have hgroup (n : String) : ((issues.map fun i => (i.table, i.message)).filter
      fun e => e.1 == n).map (·.2) = (ofTable issues n).map (·.message) := by
    rw [List.filter_map, List.map_map]
    rfl
  simp only [messages_eq_grouped, grouped, htables, hgroup]

theorem codesFor_eq (issues : List Issue) (table : String) :
    codesFor issues table = (ofTable issues table).map (·.code) := rfl

theorem sum_length_messages (issues : List Issue) :
    ((messages issues).map (·.2.length)).sum = issues.length := by
  rw [messages_eq_grouped, sum_length_grouped, List.length_map]

end Issue

namespace Session

/-- The report groups the issues like the error that carries them. -/
theorem reportGroups_eq (groups : List (String × List String)) (issues : List Issue) :
    reportGroups groups issues =
      issues.foldl (fun groups i => addTo i.table i.message groups) groups := by
  induction issues generalizing groups with
  | nil => rfl
  | cons i is ih => rw [reportGroups, ih, List.foldl_cons]

theorem reportLines_eq (issues : List Issue) :
    reportLines issues = (Issue.messages issues).map fun g =>
      (Loggers.registry.name, Issue.logLine g) := by
  rw [reportLines, reportGroups_eq]
  rfl

/-- Carries out an operation; the result are the issues of the error with which it ends, if it ends
with an error that carries issues. -/
def raised (r : Registry) : Operation → Logged (Option (List Issue))
  | .addExtension n => do
    let _ ← addExtension r n
    return none
  | .addTable t => do return (fault? (← addTable r t).2).bind RegistrationError.issues?
  | .addTables ts => do return (fault? (← addTables r ts).2).bind RegistrationError.issues?
  | .load source d => do return (fault? (← load r source d).2).bind LoadError.issues?
  | .validate => do
    let issues ← validate r
    return if issues.isEmpty then none else some issues
  | .generateSql => do return (fault? (← generateSql r)).bind GenerationError.issues?
  | .generateTypescript => do
    return (fault? (← generateTypescript r)).bind GenerationError.issues?
  | .generateDrop => do return (fault? (← generateDrop r)).bind GenerationError.issues?

/-- The lines about an error that carries issues. -/
def linesOf : Option (List Issue) → List (String × String)
  | none => []
  | some issues => reportLines issues

variable (r : Registry) (trace : Trace)

theorem refusalLines_eq (result : Except RegistrationError Unit) :
    refusalLines result = linesOf ((fault? result).bind RegistrationError.issues?) := by
  rcases result with ⟨n | issues⟩ | ⟨⟩ <;> rfl

theorem loadLines_eq (result : Except LoadError Unit) :
    loadLines result = linesOf ((fault? result).bind LoadError.issues?) := by
  rcases result with (⟨path, fault⟩ | ⟨n | issues⟩) | ⟨⟩ <;> rfl

theorem reportLines_eq_linesOf (issues : List Issue) :
    reportLines issues = linesOf (if issues.isEmpty then none else some issues) := by
  cases issues <;> rfl

/-- A generator of a schema with issues raises these. -/
theorem generate_run_fst_of_ne {r : Registry} (h : r.issues ≠ []) (operation : String)
    (work : Logged (Except GenerationError String)) (trace : Trace) :
    ((generate r operation work).run trace).1 = .error (.invalid r.issues) := by
  have hsome : r.issues.isEmpty = false := by simpa using h
  simp only [generate, run_bind, validate_run_fst, hsome, Bool.false_eq_true, if_false]
  rfl

/-- What a generator writes about issues, whose own work raises none. -/
theorem linesOf_generate {operation : String} {work : Logged (Except GenerationError String)}
    (hwork : ∀ inner, (fault? (work.run inner).1).bind GenerationError.issues? = none) :
    linesOf ((fault? ((generate r operation work).run trace).1).bind GenerationError.issues?) =
      reportLines r.issues := by
  by_cases h : r.issues = []
  · obtain ⟨inner, hinner⟩ := generate_run_fst trace h operation work
    rw [hinner, hwork, h]
    rfl
  · rw [generate_run_fst_of_ne h]
    rfl

/-- Work that adds the lines about the issues that are taken from its result. -/
theorem adds_returned {α : Type} {work : Logged α} {found : α → Option (List Issue)}
    {lines : List (String × String)} {trace : Trace} (h : Adds work trace lines)
    (hlines : lines = linesOf (found (work.run trace).1)) :
    Adds (do return found (← work)) trace
      (linesOf ((do return found (← work) : Logged (Option (List Issue))).run trace).1) := by
  subst hlines
  exact h.quiet_bind (adds_pure _ _)

/-- The errors that an operation logs are those about the issues that it raises. -/
theorem raised_adds (op : Operation) :
    Adds (raised r op) trace (linesOf ((raised r op).run trace).1) := by
  cases op with
  | addExtension n => exact (addExtension_adds r n trace).bind_quiet (adds_pure _ _)
  | addTable t =>
      refine adds_returned (addTable_adds r t trace) ?_
      rw [addTable_run_fst, refusalLines_eq]
  | addTables ts =>
      refine adds_returned (addTables_adds r ts trace) ?_
      rw [addTables_run_fst, refusalLines_eq]
  | load source d =>
      refine adds_returned (load_adds r source d trace) ?_
      rw [load_run_fst, loadLines_eq]
  | validate =>
      refine adds_returned (validate_adds r trace) ?_
      rw [validate_run_fst, reportLines_eq_linesOf]
  | generateSql =>
      refine adds_returned (generateSql_adds r trace) (linesOf_generate r trace fun inner => ?_).symm
      rw [createScript_run_fst]
      cases Sql.createScript r.settings r.tables r.extensions r.customTypes <;> rfl
  | generateTypescript =>
      refine adds_returned (generateTypescript_adds r trace)
        (linesOf_generate r trace fun inner => ?_).symm
      rw [declarations_run_fst]
      cases TypeScript.declarations r.settings r.tables <;> rfl
  | generateDrop =>
      refine adds_returned (generateDrop_adds r trace) (linesOf_generate r trace fun inner => ?_).symm
      rw [dropScript_run_fst]
      cases Sql.dropScript r.settings r.tables r.extensions (r.customTypes.map (·.1)) <;> rfl

/-- An error that carries issues groups them by their tables: the tables stand in the order in which
they come first, each with the messages of exactly its issues in their order, which the codes of the
table go with one by one; and no message is lost or doubled. Whenever an operation on a registry, be
its tables as they may, raises an error that carries issues, the errors that it logs are one line
for each group in their order, with the number of the messages, the table and the messages
themselves; and it logs no error if it raises none of that kind. -/
theorem issues_grouped_and_logged (issues : List Issue) (r : Registry) (op : Operation)
    (trace : Trace) :
    (Issue.messages issues).map (·.1) = firsts (issues.map (·.table)) ∧
      (∀ g ∈ Issue.messages issues,
        g.2 = (issues.filter fun i => i.table = g.1).map (·.message) ∧
        Issue.codesFor issues g.1 = (issues.filter fun i => i.table = g.1).map (·.code)) ∧
      ((Issue.messages issues).map (·.2.length)).sum = issues.length ∧
      ∃ new, ((raised r op).run trace).2.records = trace.records ++ new ∧
        ((new.filter fun i => i.level = error).map fun i => (i.logger, i.message)) =
          match ((raised r op).run trace).1 with
          | none => []
          | some found => (Issue.messages found).map fun g =>
            ("pgschema.schema.registry",
              Text.counted g.2.length "error" ++ " found for table \"" ++ g.1 ++ "\": " ++
                "; ".intercalate g.2) := by
  refine ⟨?_, fun g hg => ?_, Issue.sum_length_messages issues, ?_⟩
  · rw [Issue.messages_eq, List.map_map]
    exact List.map_id _
  · rw [Issue.messages_eq] at hg
    obtain ⟨n, -, rfl⟩ := List.mem_map.mp hg
    exact ⟨rfl, Issue.codesFor_eq issues n⟩
  · obtain ⟨new, hnew, hlines⟩ := raised_adds r trace op
    refine ⟨new, congrArg (·.records) hnew, ?_⟩
    rw [errorLines] at hlines
    rw [hlines]
    cases ((raised r op).run trace).1 with
    | none => rfl
    | some found => exact reportLines_eq found

/-- In a schema where two tables alternate and the second one refers to a table that is missing, all
messages about a table are put together, and a generator logs them so. -/
theorem issues_grouped_and_logged_tags_orders :
    let r : Registry := { tables := [Sample.tags, Sample.orders, Sample.tags, Sample.orders] }
    r.issues.map (·.table) = ["orders", "tags", "orders", "orders"] ∧
      ((Issue.messages r.issues).map (·.1) = ["orders", "tags"] ∧
        ("tags", ["Table \"tags\" already exists"]) ∈ Issue.messages r.issues ∧
        Issue.codesFor r.issues "tags" = [.duplicateTable]) ∧
      ((raised r .generateDrop).run {}).1 = some r.issues ∧
      ∃ new, ((raised r .generateDrop).run {}).2.records = new ∧
        (new.filter fun i => i.level = error).length = 2 := by
  intro r
  have hraised : ((raised r .generateDrop).run {}).1 = some r.issues := by decide +kernel
  have htags : ("tags", ["Table \"tags\" already exists"]) ∈ Issue.messages r.issues := by
    decide +kernel
  obtain ⟨htables, hgroups, -, new, hnew, hlines⟩ :=
    issues_grouped_and_logged r.issues r .generateDrop {}
  refine ⟨by decide +kernel, ⟨htables.trans (by decide +kernel), htags, ?_⟩, hraised, new,
    by simpa using hnew, ?_⟩
  · exact (hgroups _ htags).2.trans (by decide +kernel)
  · have hlength := congrArg List.length hlines
    rw [List.length_map, hraised] at hlength
    exact hlength.trans (by decide +kernel)

end Session

end TableSchema
