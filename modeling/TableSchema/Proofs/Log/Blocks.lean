import TableSchema.Proofs.Reading.Entries
import TableSchema.Proofs.Registry.Reports

/-!
# Contexts in nested blocks

A block of work is entered with fields of its own and left when its work ends, be it that the work
is done or that it fails. Only the context of the innermost block is looked at, into which those of
the blocks around it were merged when it was entered. So what a record carries is told here from all
the blocks that it stands in, and the frames after a block are those before it.

## Implementation notes

A task that fails fails the tasks around it, up to an attempt, which goes on after a failure as well.
Blocks that are entered and left in any order that keeps them nested, each left by the end of its
work or by a failure, are those of some task.
-/

namespace TableSchema

namespace Log

/-- The context inside blocks, the outermost first, within another context: a field is the one that
the innermost block gives that gives one at all, and the further fields of all blocks are written
one after the other. -/
def Context.inside (outer : Context) (blocks : List Context) : Context where
  table := (blocks.filterMap (·.table)).getLast? <|> outer.table
  operation := (blocks.filterMap (·.operation)).getLast? <|> outer.operation
  component := (blocks.filterMap (·.component)).getLast? <|> outer.component
  extra := Datum.putAll outer.extra (blocks.flatMap (·.extra))

/-- Work in nested blocks. -/
inductive Task where
  /-- Writes a record. -/
  | note (l : Logger) (level : Level) (message : String)
  /-- Does nothing but fail. -/
  | fail
  /-- Does one task, and if it does not fail another one. -/
  | andThen (first second : Task)
  /-- Does a task in a block with fields of its own. -/
  | block (own : Context) (work : Task)
  /-- Does a task and goes on, even if it fails. -/
  | attempt (work : Task)

namespace Task

/-- Carries out a task; the result is whether it came to its end without failing. -/
def run : Task → Logged Bool
  | .note l level message => do
    l.log level message
    return true
  | .fail => return false
  | .andThen first second => do
    if ← first.run then second.run else return false
  | .block own work => within own work.run
  | .attempt work => do
    let _ ← work.run
    return true

/-- The task comes to its end without failing. -/
def succeeds : Task → Bool
  | .note _ _ _ => true
  | .fail => false
  | .andThen first second => first.succeeds && second.succeeds
  | .block _ work => work.succeeds
  | .attempt _ => true

/-- The records of a task inside blocks within another context. -/
def records (outer : Context) (blocks : List Context) : Task → List Record
  | .note l level message => [l.record (outer.inside blocks) level message []]
  | .fail => []
  | .andThen first second =>
    first.records outer blocks ++ if first.succeeds then second.records outer blocks else []
  | .block own work => work.records outer (blocks ++ [own])
  | .attempt work => work.records outer blocks

end Task

/-- The frames inside blocks that are entered one after the other. -/
def Frames.enterAll (fs : Frames) (blocks : List Context) : Frames :=
  blocks.foldl (fun fs own => Frames.enter own fs) fs

/-! ## Merged contexts -/

theorem Frames.current_enter (own : Context) (fs : Frames) :
    (fs.enter own).current = fs.current.nest own := rfl

theorem Context.inside_nil (outer : Context) : outer.inside [] = outer := rfl

theorem getLast?_filterMap_concat {α β : Type} (f : α → Option β) (as : List α) (a : α)
    (b : Option β) :
    ((as ++ [a]).filterMap f).getLast?.or b = (f a).or (((as.filterMap f).getLast?).or b) := by
  rw [List.filterMap_append]
  cases h : f a <;> simp [h]

/-- The merged context of one block more. -/
theorem Context.nest_inside (outer : Context) (blocks : List Context) (own : Context) :
    (outer.inside blocks).nest own = outer.inside (blocks ++ [own]) := by
  have hextra : Datum.putAll (Datum.putAll outer.extra (blocks.flatMap (·.extra))) own.extra =
      Datum.putAll outer.extra ((blocks ++ [own]).flatMap (·.extra)) := by
    simp [Datum.putAll, List.flatMap_append, List.foldl_append]
  simp only [nest, inside, Option.orElse_eq_orElse, Option.orElse_eq_or,
    getLast?_filterMap_concat, hextra]

theorem Frames.current_enterAll (fs : Frames) (blocks : List Context) :
    (fs.enterAll blocks).current = fs.current.inside blocks := by
  induction blocks using List.reverseRecOn with
  | nil => rfl
  | append_singleton blocks own ih =>
      have hlast : fs.enterAll (blocks ++ [own]) = (fs.enterAll blocks).enter own := by
        simp [enterAll]
      rw [hlast, current_enter, ih, Context.nest_inside]

/-! ## Tasks -/

/-- A task leaves the frames as they are, whether it fails or not, and its records carry the merged
contexts of the blocks that they stand in. -/
theorem Task.run_eq (task : Task) (outer : Context) (blocks : List Context) (trace : Trace)
    (h : trace.frames.current = outer.inside blocks) :
    task.run.run trace = (task.succeeds, trace.add (task.records outer blocks)) := by
  induction task generalizing blocks trace with
  | note l level message =>
      rw [records, ← h]
      rfl
  | fail =>
      rw [records, Trace.add, List.append_nil]
      rfl
  | andThen first second ihFirst ihSecond =>
      have hrun : (andThen first second).run.run trace =
          (if (first.run.run trace).1 then second.run else pure false).run
            (first.run.run trace).2 := rfl
      rw [hrun, ihFirst blocks trace h, records, succeeds]
      cases first.succeeds with
      | false =>
          rw [Bool.false_and, if_neg Bool.false_ne_true, if_neg Bool.false_ne_true,
            List.append_nil]
          rfl
      | true =>
          have hsecond := ihSecond blocks (trace.add (first.records outer blocks)) h
          rw [Bool.true_and, if_pos rfl, if_pos rfl, hsecond, Trace.add_add]
  | block own work ih =>
      have hrun : (block own work).run.run trace =
          let inner := work.run.run { trace with frames := trace.frames.enter own }
          (inner.1, { inner.2 with frames := inner.2.frames.leave }) := rfl
      have hcurrent : (trace.frames.enter own).current = outer.inside (blocks ++ [own]) := by
        rw [Frames.current_enter, h, Context.nest_inside]
      rw [hrun, ih (blocks ++ [own]) { trace with frames := trace.frames.enter own } hcurrent]
      rfl
  | attempt work ih =>
      have hrun : (attempt work).run.run trace = (true, (work.run.run trace).2) := rfl
      rw [hrun, ih blocks trace h]
      rfl

end Log

/-! ## Operations -/

namespace Session

open Log

theorem perform_run_snd (r : Registry) (op : Operation) (trace : Trace) :
    ((perform r op).run trace).2 = ((raised r op).run trace).2 := by
  cases op <;> rfl

theorem loadFile_adds (r : Registry) (path : Path) (content : Except AccessFault String)
    (trace : Trace) : ∃ lines, Adds (loadFile r path content) trace lines := by
  unfold loadFile
  cases SchemaFile.document path content with
  | error e => exact ⟨[], adds_pure _ trace⟩
  | ok d => exact ⟨_, (load_adds r path.text d trace).quiet_bind (adds_pure _ _)⟩

end Session

namespace Log

/-- A task of blocks that are nested in any way and left by the end of their work or by a failure
leaves the frames, and so the context, as they were before, and so does every block in it. A record
carries the context that the blocks around it make up. Outside of all blocks it is empty; inside,
the table, the operation and the component are each the one that the innermost block gives that
gives one, and the further fields of the blocks are merged from the outermost to the innermost: a
field stands where it came first and has the value that came last. Every operation on a registry and
every loading of a file leaves the frames as they were, however it ends. -/
theorem blocks_leave_context (task : Task) (own : Context) (blocks : List Context) (name : String)
    (r : Registry) (op : Operation) (path : Path) (content : Except AccessFault String)
    (trace : Trace) :
    (task.run.run trace = (task.succeeds,
        { trace with records := trace.records ++ task.records trace.frames.current [] }) ∧
      ((within own task.run).run trace).2.frames = trace.frames) ∧
      (Frames.current [] = {} ∧
        (Frames.enterAll [] blocks).current = Context.inside {} blocks ∧
        (Context.inside {} blocks).table = (blocks.filterMap (·.table)).getLast? ∧
        (Context.inside {} blocks).operation = (blocks.filterMap (·.operation)).getLast? ∧
        (Context.inside {} blocks).component = (blocks.filterMap (·.component)).getLast? ∧
        (Context.inside {} blocks).extra = Datum.entriesOf (blocks.flatMap (·.extra)) ∧
        Datum.textKeys (Context.inside {} blocks).extra =
          firsts (Datum.textKeys (blocks.flatMap (·.extra))) ∧
        Datum.field? name (Context.inside {} blocks).extra =
          Datum.lastField? name (blocks.flatMap (·.extra))) ∧
      ((Session.perform r op).run trace).2.frames = trace.frames ∧
      ((Session.loadFile r path content).run trace).2.frames = trace.frames := by
  have hrun := task.run_eq trace.frames.current [] trace (Context.inside_nil _).symm
  have hblock := (Task.block own task).run_eq trace.frames.current [] trace
    (Context.inside_nil _).symm
  obtain ⟨lines, hfile⟩ := Session.loadFile_adds r path content trace
  have hnone (x : Option String) : (x <|> none) = x := by cases x <;> rfl
  refine ⟨⟨hrun, congrArg (·.2.frames) hblock⟩, ⟨rfl, Frames.current_enterAll [] blocks,
    hnone _, hnone _, hnone _, rfl, Datum.textKeys_entriesOf _, Datum.field?_entriesOf name _⟩,
    ?_, hfile.frames⟩
  rw [Session.perform_run_snd]
  exact (Session.raised_adds r trace op).frames

/-- A failure in the inner block skips what follows in the outer one; after the attempt the context
is empty again. -/
example (l : Logger) :
    let outer : Context :=
      { table := some "orders", extra := [(.text "source", .text "a"), (.text "part", .text "b")] }
    let inner : Context := { operation := some "add_table", extra := [(.text "source", .text "c")] }
    let task : Task := .andThen
      (.attempt (.block outer (.andThen
        (.block inner (.andThen (.note l info "inside") .fail)) (.note l info "skipped"))))
      (.note l info "after")
    let merged : Context :=
      { outer with
        operation := some "add_table"
        extra := [(.text "source", .text "c"), (.text "part", .text "b")] }
    ((task.run.run {}).2.records.map fun i => (i.message, i.context)) =
      [("inside", merged), ("after", {})] := by cbv

end Log

end TableSchema
