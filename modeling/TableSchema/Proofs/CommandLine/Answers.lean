import TableSchema.CommandLine.Run
import TableSchema.Proofs.Registry.Soundness

/-!
# What a run answers

The outcome of a run depends on the environment, the files and the request alone: the records that
are written on the way have no part in it. A schema that was loaded has no issues, so the text that
is asked for is there unless the generator itself cannot write it.
-/

namespace TableSchema

open Log

variable {r : Registry}

/-- What comes of loading a schema file, whatever is logged. -/
theorem Session.loadFile_run_fst (r : Registry) (path : Path) (content : Except AccessFault String)
    (trace : Trace) :
    ((Session.loadFile r path content).run trace).1 =
      match SchemaFile.document path content with
      | .error e => (r, .error e)
      | .ok d => ((r.load path.text d).1, (r.load path.text d).2.mapError .reported) := by
  cases h : SchemaFile.document path content with
  | error e =>
      simp only [Session.loadFile, h]
      rfl
  | ok d =>
      simp only [Session.loadFile, h, run_bind, Session.load_run_fst]
      rfl

namespace CommandLine

variable {files : Files} {q : Request}

/-- The text of the artifact that is asked for. -/
def wanted (o : Options) (r : Registry) : Except GenerationError String :=
  match o.artifact with
  | some .typescript => (TypeScript.declarations r.settings r.tables).mapError .typescript
  | some .dropScript =>
    (Sql.dropScript r.settings r.tables r.extensions (r.customTypes.map (·.1))).mapError .sql
  | some .createScript | none =>
    (Sql.createScript r.settings r.tables r.extensions r.customTypes).mapError .sql

/-- The text that is generated from a registry, or nothing if its failure is reported. -/
def generatedText (o : Options) (r : Registry) : Except Breakdown (Option String) :=
  match wanted o r with
  | .ok text => .ok (some text)
  | .error (.invalid _) => .ok none
  | .error (.sql f) => .error (.script f)
  | .error (.typescript f) => .error (.declarations f)

/-- The registry that a schema file is loaded into. -/
def fresh (d : Defaults) (q : Request) : Registry :=
  { settings := q.options.override d.generator }

/-- The text that a request asks for, or nothing if its failure is reported. -/
def renderedText (env : Environment) (q : Request) (content : Except AccessFault String) :
    Except Breakdown (Option String) :=
  match env.defaults with
  | .error _ => .ok none
  | .ok d =>
    match SchemaFile.document q.schema content with
    | .error (.broken b) => .error b
    | .error (.reported _) => .ok none
    | .ok datum =>
      match (fresh d q).load q.schema.text datum with
      | (_, .error _) => .ok none
      | (r, .ok ()) => generatedText q.options r

/-- The outcome of a run that reports a failure. -/
def failed (files : Files) : Outcome :=
  ⟨failure, "", files⟩

/-- The outcome of a run whose text was generated. -/
def delivered (q : Request) (files : Files) (text : String) : Except Breakdown Outcome :=
  match q.options.output with
  | none => .ok ⟨success, text, files⟩
  | some path =>
    if path.holdsNul then .error .nulInPath
    else
      match files.write path text with
      | .ok fs => .ok ⟨success, "", fs⟩
      | .error _ => .ok (failed files)

/-- The outcome of a run. -/
def answer (env : Environment) (files : Files) (q : Request) : Except Breakdown Outcome :=
  match renderedText env q (files.read q.schema) with
  | .error b => .error b
  | .ok none => .ok (failed files)
  | .ok (some text) => delivered q files text

theorem generate_run_fst (h : r.issues = []) (o : Options) (trace : Trace) :
    ((o.generate r).run trace).1 = wanted o r := by
  obtain ⟨artifact, output, style, noBanner, verbose, jsonLogs⟩ := o
  cases artifact with
  | none => exact Session.generateSql_run_fst trace h
  | some a =>
      cases a with
      | createScript => exact Session.generateSql_run_fst trace h
      | typescript => exact Session.generateTypescript_run_fst trace h
      | dropScript => exact Session.generateDrop_run_fst trace h

theorem generated_run_fst (h : r.issues = []) (o : Options) (trace : Trace) :
    ((generated o r).run trace).1 = generatedText o r := by
  rw [generated, run_bind, generate_run_fst h, generatedText]
  cases wanted o r with
  | ok text => rfl
  | error e => cases e <;> rfl

theorem render_run_fst (env : Environment) (q : Request) (content : Except AccessFault String)
    (trace : Trace) : ((render env q content).run trace).1 = renderedText env q content := by
  unfold render renderedText
  cases env.defaults with
  | error f => rfl
  | ok d =>
      simp only [run_bind, Session.loadFile_run_fst]
      cases SchemaFile.document q.schema content with
      | error e => cases e <;> rfl
      | ok datum =>
          have hsound : ((fresh d q).load q.schema.text datum).1.IsSound :=
            (Registry.isSound_empty _).load q.schema.text datum
          have hfresh : ({ settings := q.options.override d.generator } : Registry) = fresh d q :=
            rfl
          rw [hfresh]
          simp only
          generalize (fresh d q).load q.schema.text datum = loaded at hsound ⊢
          obtain ⟨r, result⟩ := loaded
          cases result with
          | error e => rfl
          | ok _ => exact generated_run_fst hsound.issues_eq_nil q.options _

theorem deliver_run_fst (text : String) (trace : Trace) :
    ((deliver q files text).run trace).1 = delivered q files text := by
  unfold deliver delivered
  cases q.options.output with
  | none => rfl
  | some path =>
      cases hnul : path.holdsNul with
      | true => simp [hnul]; rfl
      | false => cases hwrite : files.write path text <;> simp [hnul, hwrite] <;> rfl

/-- A run ends as its environment, files and request decide. -/
theorem run_run_fst (env : Environment) (files : Files) (q : Request) (trace : Trace) :
    ((run env files q).run trace).1 = answer env files q := by
  rw [run, run_bind, render_run_fst, answer]
  cases renderedText env q (files.read q.schema) with
  | error b => rfl
  | ok text =>
      cases text with
      | none => rfl
      | some text => exact deliver_run_fst text _

end CommandLine

end TableSchema
