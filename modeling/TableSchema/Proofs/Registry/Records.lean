import TableSchema.Loading.File
import TableSchema.Proofs.Outcomes
import TableSchema.Proofs.Registry.Operations

/-!
# What operations write into the log

Work on a registry leaves the frames of the log as they are and adds records at the end, however it
ends. Among these records are errors only where issues are reported: when a table is refused because
of them, and when the check of the schema finds any, in the last step of the operation.
-/

namespace TableSchema

open Log

namespace Log

variable {α β : Type} {trace : Trace}

/-- The trace with further records. -/
def Trace.add (trace : Trace) (new : List Record) : Trace :=
  { trace with records := trace.records ++ new }

theorem Trace.add_add (trace : Trace) (new later : List Record) :
    (trace.add new).add later = trace.add (new ++ later) := by
  simp only [Trace.add, List.append_assoc]

/-- The errors among records: their sources and their messages. -/
def errorLines (records : List Record) : List (String × String) :=
  (records.filter fun i => i.level = error).map fun i => (i.logger, i.message)

theorem errorLines_append (is js : List Record) :
    errorLines (is ++ js) = errorLines is ++ errorLines js := by
  simp [errorLines]

/-- Begun with this trace, the work leaves the frames as they are and adds records, among them these
errors. -/
def Adds (work : Logged α) (trace : Trace) (lines : List (String × String)) : Prop :=
  ∃ new, (work.run trace).2 = trace.add new ∧ errorLines new = lines

theorem Adds.frames {work : Logged α} {lines : List (String × String)}
    (h : Adds work trace lines) : (work.run trace).2.frames = trace.frames := by
  obtain ⟨new, hnew, -⟩ := h
  rw [hnew, Trace.add]

theorem adds_pure (a : α) (trace : Trace) : Adds (pure a) trace [] := by
  refine ⟨[], ?_, rfl⟩
  change trace = trace.add []
  rw [Trace.add, List.append_nil]

theorem Adds.bind {x : Logged α} {f : α → Logged β} {as bs : List (String × String)}
    (hx : Adds x trace as) (hf : Adds (f (x.run trace).1) (x.run trace).2 bs) :
    Adds (x >>= f) trace (as ++ bs) := by
  obtain ⟨new, hnew, rfl⟩ := hx
  obtain ⟨later, hlater, rfl⟩ := hf
  refine ⟨new ++ later, ?_, errorLines_append new later⟩
  rw [run_bind, hlater, hnew, Trace.add_add]

/-- Work that writes no errors, before or after work that does. -/
theorem Adds.bind_quiet {x : Logged α} {f : α → Logged β} {lines : List (String × String)}
    (hx : Adds x trace []) (hf : Adds (f (x.run trace).1) (x.run trace).2 lines) :
    Adds (x >>= f) trace lines :=
  hx.bind hf

theorem Adds.quiet_bind {x : Logged α} {f : α → Logged β} {lines : List (String × String)}
    (hx : Adds x trace lines) (hf : Adds (f (x.run trace).1) (x.run trace).2 []) :
    Adds (x >>= f) trace lines :=
  List.append_nil lines ▸ hx.bind hf

/-- A block is left as it was entered. -/
theorem Adds.within {own : Context} {work : Logged α} {lines : List (String × String)}
    (h : Adds work { trace with frames := trace.frames.enter own } lines) :
    Adds (within own work) trace lines := by
  obtain ⟨new, hnew, hlines⟩ := h
  refine ⟨new, ?_, hlines⟩
  have hrun : ((Log.within own work).run trace).2 =
      { (work.run { trace with frames := trace.frames.enter own }).2 with
        frames := (work.run { trace with frames := trace.frames.enter own }).2.frames.leave } :=
    rfl
  rw [hrun, hnew]
  rfl

theorem adds_log (l : Logger) (level : Level) (message : String) (trace : Trace) :
    Adds (l.log level message) trace (if level = error then [(l.name, message)] else []) := by
  refine ⟨[l.record trace.frames.current level message []], rfl, ?_⟩
  by_cases h : level = error <;> simp [errorLines, Logger.record, h]

end Log

namespace Session

variable {r : Registry} {trace : Trace}

/-- The errors among notes are written as they are. -/
theorem logAll_adds (l : Logger) (notes : List (Level × String)) (trace : Trace) :
    Adds (logAll l notes) trace
      ((notes.filter fun n => n.1 = error).map fun n => (l.name, n.2)) := by
  induction notes generalizing trace with
  | nil => exact adds_pure () trace
  | cons n notes ih =>
      have hcons := (adds_log l n.1 n.2 trace).bind (f := fun _ => logAll l notes) (ih _)
      have hlines : (((n :: notes).filter fun m => m.1 = error).map fun m => (l.name, m.2)) =
          (if n.1 = error then [(l.name, n.2)] else []) ++
            (notes.filter fun m => m.1 = error).map fun m => (l.name, m.2) := by
        rw [List.filter_cons]
        by_cases h : n.1 = error <;> simp [h]
      rw [hlines]
      exact hcons

/-- Notes that are no errors. -/
theorem logAll_adds_quiet {l : Logger} {notes : List (Level × String)}
    (h : ∀ n ∈ notes, n.1 ≠ error) (trace : Trace) : Adds (logAll l notes) trace [] := by
  have hnone : (notes.filter fun n => n.1 = error) = [] := by
    rw [List.filter_eq_nil_iff]
    intro n hn
    simpa using h n hn
  have hadds := logAll_adds l notes trace
  rwa [hnone] at hadds

/-- The lines of a report. -/
def reportLines (issues : List Issue) : List (String × String) :=
  (reportGroups [] issues).map fun g => (Loggers.registry.name, Issue.logLine g)

theorem logAll_reportNotes_adds (issues : List Issue) (trace : Trace) :
    Adds (logAll Loggers.registry (reportNotes issues)) trace (reportLines issues) := by
  have hadds := logAll_adds Loggers.registry (reportNotes issues) trace
  have hall : ((reportNotes issues).filter fun n => n.1 = error) = reportNotes issues := by
    rw [List.filter_eq_self]
    intro n hn
    obtain ⟨g, -, rfl⟩ := List.mem_map.mp hn
    rfl
  rwa [hall, reportNotes, List.map_map] at hadds

theorem debug_ne_error : debug ≠ error := by decide

theorem warning_ne_error : warning ≠ error := by decide

theorem level_of_mem_issueNote {t : Table} {issues : List Issue} :
    ∀ n ∈ issueNote t issues, n.1 ≠ error := by
  unfold issueNote
  split
  · exact List.forall_mem_nil _
  · exact List.forall_mem_singleton.mpr debug_ne_error

theorem level_of_mem_schemaNotes {ts : List Table} : ∀ n ∈ schemaNotes ts, n.1 ≠ error := by
  intro n hn
  obtain ⟨t, -, hn⟩ := List.mem_flatMap.mp hn
  exact level_of_mem_issueNote n hn

theorem level_of_mem_enumNote {types : Sql.CustomTypes} {e : EnumType} :
    ∀ n ∈ enumNote types e, n.1 ≠ error := by
  unfold enumNote
  split
  · exact List.forall_mem_singleton.mpr debug_ne_error
  · split
    · exact List.forall_mem_nil _
    · exact List.forall_mem_singleton.mpr warning_ne_error

theorem level_of_mem_enumNotes {types : Sql.CustomTypes} {es : List EnumType} :
    ∀ n ∈ enumNotes types es, n.1 ≠ error := by
  induction es generalizing types with
  | nil => exact List.forall_mem_nil _
  | cons e es ih => exact List.forall_mem_append.mpr ⟨level_of_mem_enumNote, ih⟩

/-! ## Additions -/

theorem addExtension_adds (r : Registry) (n : String) (trace : Trace) :
    Adds (addExtension r n) trace [] := by
  unfold addExtension
  refine Adds.bind_quiet ?_ (adds_pure _ _)
  cases r.extensions.contains n with
  | true => exact adds_pure () trace
  | false => exact adds_log Loggers.registry debug _ trace

theorem addExtensions_adds (r : Registry) (ns : List String) (trace : Trace) :
    Adds (addExtensions r ns) trace [] := by
  induction ns generalizing r trace with
  | nil => exact adds_pure r trace
  | cons n ns ih => exact (addExtension_adds r n trace).bind_quiet (ih _ _)

/-- The lines about a refusal. -/
def refusalLines : Except RegistrationError Unit → List (String × String)
  | .error (.invalid issues) => reportLines issues
  | _ => []

/-- A refused table is reported if it has issues. -/
theorem addTable_adds (r : Registry) (t : Table) (trace : Trace) :
    Adds (addTable r t) trace (refusalLines (r.acceptAll [t]).2) := by
  unfold addTable
  refine Adds.within ?_
  rw [Registry.acceptAll]
  cases r.accept t with
  | ok r' =>
      refine (logAll_adds_quiet ?_ _).bind_quiet (adds_pure _ _)
      exact List.forall_mem_append.mpr
        ⟨level_of_mem_enumNotes, List.forall_mem_singleton.mpr debug_ne_error⟩
  | error e =>
      cases e with
      | duplicateTable n => exact adds_pure _ _
      | invalid issues =>
          refine (logAll_adds_quiet level_of_mem_issueNote _).bind_quiet ?_
          exact (logAll_reportNotes_adds issues _).quiet_bind (adds_pure _ _)

theorem addTables_adds (r : Registry) (ts : List Table) (trace : Trace) :
    Adds (addTables r ts) trace (refusalLines (r.acceptAll ts).2) := by
  induction ts generalizing r trace with
  | nil => exact adds_pure _ trace
  | cons t ts ih =>
      have hfirst := addTable_adds r t trace
      have hrun := addTable_run_fst r trace t
      rw [addTables, Registry.acceptAll]
      rw [Registry.acceptAll] at hfirst hrun
      cases ha : r.accept t with
      | ok r' =>
          rw [ha] at hfirst hrun
          refine hfirst.bind_quiet ?_
          rw [hrun]
          exact ih r' _
      | error e =>
          rw [ha] at hfirst hrun
          refine hfirst.quiet_bind ?_
          rw [hrun]
          exact adds_pure _ _

/-- The lines about a document that is not loaded. -/
def loadLines : Except LoadError Unit → List (String × String)
  | .error (.registration e) => refusalLines (.error e)
  | _ => []

theorem load_adds (r : Registry) (source : String) (d : Datum) (trace : Trace) :
    Adds (load r source d) trace (loadLines (r.load source d).2) := by
  cases hread : Document.read d with
  | error f =>
      simp only [load, Registry.load, hread]
      exact adds_pure _ trace
  | ok declared =>
      simp only [load, Registry.load, hread]
      have hdeclare (inner : Trace) : Adds (declare r declared) inner
          (refusalLines ((declared.extensions.foldl Registry.addExtension r).acceptAll
            declared.tables).2) := by
        refine (addExtensions_adds r declared.extensions inner).bind_quiet ?_
        rw [addExtensions_run_fst]
        exact addTables_adds _ _ _
      have hrun (inner : Trace) : ((declare r declared).run inner).1 =
          (declared.extensions.foldl Registry.addExtension r).acceptAll declared.tables := by
        rw [declare, run_bind, addExtensions_run_fst, addTables_run_fst]
      generalize (declared.extensions.foldl Registry.addExtension r).acceptAll
        declared.tables = loaded at hdeclare hrun
      obtain ⟨r', result⟩ := loaded
      have hwithin := (hdeclare { trace with
        frames := trace.frames.enter { operation := some "load_schema",
                                       extra := [(Datum.text "source", Datum.text source)] } }).within
      cases result with
      | ok _ =>
          refine hwithin.bind_quiet ?_
          rw [run_within_fst, hrun]
          exact (adds_log Loggers.loader info _ _).bind_quiet (adds_pure _ _)
      | error e =>
          refine hwithin.quiet_bind ?_
          rw [run_within_fst, hrun]
          exact adds_pure _ _

/-! ## Checks and generators -/

theorem validate_adds (r : Registry) (trace : Trace) :
    Adds (validate r) trace (reportLines r.issues) := by
  unfold validate
  refine Adds.within ?_
  refine (logAll_adds_quiet level_of_mem_schemaNotes _).bind_quiet ?_
  exact (logAll_reportNotes_adds r.issues _).quiet_bind (adds_pure _ _)

/-- A generator reports the issues of the schema and writes no errors of its own. -/
theorem generate_adds (r : Registry) (operation : String)
    {work : Logged (Except GenerationError String)} (hwork : ∀ inner, Adds work inner [])
    (trace : Trace) : Adds (generate r operation work) trace (reportLines r.issues) := by
  unfold generate
  refine (validate_adds r trace).quiet_bind ?_
  rw [validate_run_fst]
  cases r.issues.isEmpty with
  | true => exact (hwork _).within
  | false => exact adds_pure _ _

theorem createScript_adds (s : Settings) (ts : List Table) (extensions : List String)
    (types : Sql.CustomTypes) (trace : Trace) :
    Adds (createScript s ts extensions types) trace [] := by
  unfold createScript
  refine (logAll_adds_quiet ?_ _).bind_quiet ?_
  · exact List.forall_mem_map.mpr fun _ _ => debug_ne_error
  · cases Sql.createScript s ts extensions types with
    | error f => exact adds_pure _ _
    | ok text => exact (adds_log Loggers.sql info _ _).bind_quiet (adds_pure _ _)

theorem dropScript_adds (s : Settings) (ts : List Table) (extensions : List String)
    (types : Sql.CustomTypes) (trace : Trace) :
    Adds (dropScript s ts extensions types) trace [] :=
  (adds_log Loggers.sql info _ _).bind_quiet (adds_pure _ _)

theorem declarations_adds (s : Settings) (ts : List Table) (trace : Trace) :
    Adds (declarations s ts) trace [] := by
  unfold declarations
  cases TypeScript.declarations s ts with
  | error f => exact adds_pure _ _
  | ok text => exact (adds_log Loggers.typescript info _ _).bind_quiet (adds_pure _ _)

theorem generateSql_adds (r : Registry) (trace : Trace) :
    Adds (generateSql r) trace (reportLines r.issues) :=
  generate_adds r _ (createScript_adds _ _ _ _) trace

theorem generateDrop_adds (r : Registry) (trace : Trace) :
    Adds (generateDrop r) trace (reportLines r.issues) :=
  generate_adds r _ (dropScript_adds _ _ _ _) trace

theorem generateTypescript_adds (r : Registry) (trace : Trace) :
    Adds (generateTypescript r) trace (reportLines r.issues) :=
  generate_adds r _ (declarations_adds _ _) trace

end Session

end TableSchema
