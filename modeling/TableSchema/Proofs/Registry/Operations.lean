import TableSchema.Loading

/-!
# Runs of operations on a registry

The operations that a registry offers, and the registry after any number of them. The log has no
part in it: an operation that writes records ends with the registry and the answer of the function
without a log, whatever was logged before.
-/

namespace TableSchema

open Log

namespace Log

variable {α β : Type}

theorem run_bind (x : Logged α) (f : α → Logged β) (trace : Trace) :
    (x >>= f).run trace = (f (x.run trace).1).run (x.run trace).2 := rfl

theorem run_within_fst (own : Context) (work : Logged α) (trace : Trace) :
    ((within own work).run trace).1 =
      (work.run { trace with frames := trace.frames.enter own }).1 := rfl

end Log

/-- What can be asked of a registry. -/
inductive Operation where
  | addExtension (name : String)
  | addTable (t : Table)
  | addTables (ts : List Table)
  | load (source : String) (document : Datum)
  | validate
  | generateSql
  | generateTypescript
  | generateDrop

namespace Registry

/-- The registry after an operation, be it successful or not. -/
def perform (r : Registry) : Operation → Registry
  | .addExtension n => r.addExtension n
  | .addTable t => (r.acceptAll [t]).1
  | .addTables ts => (r.acceptAll ts).1
  | .load source d => (r.load source d).1
  | .validate | .generateSql | .generateTypescript | .generateDrop => r

/-- The registry that operations make of an empty one. -/
def after (s : Settings) (ops : List Operation) : Registry :=
  ops.foldl perform { settings := s }

theorem after_concat (s : Settings) (ops : List Operation) (op : Operation) :
    after s (ops ++ [op]) = (after s ops).perform op := by
  simp [after, List.foldl_append]

end Registry

namespace Session

/-- Carries out an operation with its log. -/
def perform (r : Registry) : Operation → Logged Registry
  | .addExtension n => addExtension r n
  | .addTable t => do return (← addTable r t).1
  | .addTables ts => do return (← addTables r ts).1
  | .load source d => do return (← load r source d).1
  | .validate => do let _ ← validate r; return r
  | .generateSql => do let _ ← generateSql r; return r
  | .generateTypescript => do let _ ← generateTypescript r; return r
  | .generateDrop => do let _ ← generateDrop r; return r

/-- Carries out operations one after the other. -/
def performAll (r : Registry) : List Operation → Logged Registry
  | [] => return r
  | op :: ops => do performAll (← perform r op) ops

variable (r : Registry) (trace : Trace)

theorem addExtension_run_fst (n : String) :
    ((addExtension r n).run trace).1 = r.addExtension n := by
  cases h : r.extensions.contains n <;> simp only [addExtension, h] <;> rfl

theorem addExtensions_run_fst (ns : List String) :
    ((addExtensions r ns).run trace).1 = ns.foldl Registry.addExtension r := by
  induction ns generalizing r trace with
  | nil => rfl
  | cons n ns ih => rw [addExtensions, run_bind, ih, addExtension_run_fst, List.foldl_cons]

theorem addTable_run_fst (t : Table) : ((addTable r t).run trace).1 = r.acceptAll [t] := by
  rw [addTable, run_within_fst]
  cases h : r.accept t with
  | ok r' =>
      simp only [Registry.acceptAll, h]
      rfl
  | error e => cases e <;> simp only [Registry.acceptAll, h] <;> rfl

theorem addTables_run_fst (ts : List Table) :
    ((addTables r ts).run trace).1 = r.acceptAll ts := by
  induction ts generalizing r trace with
  | nil => rfl
  | cons t ts ih =>
      rw [addTables, run_bind, addTable_run_fst, Registry.acceptAll, Registry.acceptAll]
      cases r.accept t with
      | ok r' => exact ih r' _
      | error e => rfl

theorem load_run_fst (source : String) (d : Datum) :
    ((load r source d).run trace).1 = r.load source d := by
  cases h : Document.read d with
  | error f =>
      simp only [load, Registry.load, h]
      rfl
  | ok declared =>
      simp only [load, Registry.load, h, run_bind, run_within_fst, declare, addTables_run_fst,
        addExtensions_run_fst]
      cases ((declared.extensions.foldl Registry.addExtension r).acceptAll declared.tables).2 <;>
        rfl

theorem validate_run_fst : ((validate r).run trace).1 = r.issues := rfl

/-- The log has no part in what an operation makes of a registry. -/
theorem perform_run_fst (op : Operation) :
    ((perform r op).run trace).1 = r.perform op := by
  cases op with
  | addExtension n => exact addExtension_run_fst r trace n
  | addTable t => exact congrArg Prod.fst (addTable_run_fst r trace t)
  | addTables ts => exact congrArg Prod.fst (addTables_run_fst r trace ts)
  | load source d => exact congrArg Prod.fst (load_run_fst r trace source d)
  | validate | generateSql | generateTypescript | generateDrop => rfl

/-- Nor has it a part in what a run of operations makes of a registry. -/
theorem performAll_run_fst_foldl (ops : List Operation) :
    ((performAll r ops).run trace).1 = ops.foldl Registry.perform r := by
  induction ops generalizing r trace with
  | nil => rfl
  | cons op ops ih => rw [performAll, run_bind, ih, perform_run_fst, List.foldl_cons]

theorem performAll_run_fst (s : Settings) (ops : List Operation) :
    ((performAll { settings := s } ops).run trace).1 = Registry.after s ops :=
  performAll_run_fst_foldl _ trace ops

/-- A generator whose registry has no issues does its work. -/
theorem generate_run_fst {r : Registry} (h : r.issues = []) (operation : String)
    (work : Logged (Except GenerationError String)) :
    ∃ inner, ((generate r operation work).run trace).1 = (work.run inner).1 := by
  refine ⟨{ ((validate r).run trace).2 with
    frames := ((validate r).run trace).2.frames.enter { operation := some operation } }, ?_⟩
  simp only [generate, run_bind, validate_run_fst, h, List.isEmpty_nil, if_true]
  rfl

theorem createScript_run_fst (s : Settings) (ts : List Table) (extensions : List String)
    (types : Sql.CustomTypes) :
    ((createScript s ts extensions types).run trace).1 =
      (Sql.createScript s ts extensions types).mapError .sql := by
  cases h : Sql.createScript s ts extensions types <;>
    simp only [createScript, run_bind, h] <;> rfl

theorem dropScript_run_fst (s : Settings) (ts : List Table) (extensions : List String)
    (types : Sql.CustomTypes) :
    ((dropScript s ts extensions types).run trace).1 =
      (Sql.dropScript s ts extensions (types.map (·.1))).mapError .sql := rfl

theorem declarations_run_fst (s : Settings) (ts : List Table) :
    ((declarations s ts).run trace).1 =
      (TypeScript.declarations s ts).mapError .typescript := by
  cases h : TypeScript.declarations s ts <;> simp only [declarations, h] <;> rfl

/-- Without issues the create script is written, or it cannot be written as SQL. -/
theorem generateSql_run_fst {r : Registry} (h : r.issues = []) :
    ((generateSql r).run trace).1 =
      (Sql.createScript r.settings r.tables r.extensions r.customTypes).mapError .sql := by
  obtain ⟨inner, hinner⟩ := generate_run_fst trace h _ _
  rw [generateSql, hinner, createScript_run_fst]

theorem generateDrop_run_fst {r : Registry} (h : r.issues = []) :
    ((generateDrop r).run trace).1 =
      (Sql.dropScript r.settings r.tables r.extensions (r.customTypes.map (·.1))).mapError
        .sql := by
  obtain ⟨inner, hinner⟩ := generate_run_fst trace h _ _
  rw [generateDrop, hinner, dropScript_run_fst]

theorem generateTypescript_run_fst {r : Registry} (h : r.issues = []) :
    ((generateTypescript r).run trace).1 =
      (TypeScript.declarations r.settings r.tables).mapError .typescript := by
  obtain ⟨inner, hinner⟩ := generate_run_fst trace h _ _
  rw [generateTypescript, hinner, declarations_run_fst]

end Session

end TableSchema
