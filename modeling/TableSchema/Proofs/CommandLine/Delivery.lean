import TableSchema.Proofs.CommandLine.Endings

/-!
# What a run delivers

A run that ends with status 0 delivers one text: what the generator that is asked for returns for
the registry that the schema file is loaded into, under the settings of the environment and the
overrides of the options. The text goes to the standard output or to a file, never to both. A run
that ends with status 1 puts out nothing and leaves all files as they were.
-/

namespace TableSchema

/-- A process that keeps no defaults yet reads them from the environment. -/
theorem DefaultsCache.get_empty (env : Environment) :
    (DefaultsCache.get env {}).1 = env.defaults.map (Snapshot.mk 0) := by
  cases h : env.defaults with
  | ok d => simp [DefaultsCache.get, DefaultsCache.read, h, Except.map]
  | error f => simp [DefaultsCache.get, DefaultsCache.read, h, Except.map]

namespace CommandLine

variable {env : Environment} {files : Files} {q : Request} {r : Registry} {text : String}
  {o : Outcome}

/-- The options override the style of nullable columns and the banner, and nothing else. -/
theorem override_eq (o : Options) (s : Settings) :
    o.override s =
      { s with
        nullableStyle := (o.nullableStyle.map .style).getD s.nullableStyle
        includeBanner := if o.noBanner then false else s.includeBanner } := by
  obtain ⟨artifact, output, style, noBanner, verbose, jsonLogs⟩ := o
  cases style <;> cases noBanner <;> simp [Options.override]

/-- The outcome holds the text at the one place where it is wanted. -/
def IsDelivered (output : Option Path) (files : Files) (text : String) (o : Outcome) : Prop :=
  match output with
  | none => o.output = text ∧ o.files = files
  | some path =>
    o.output = "" ∧ files.write path text = .ok o.files ∧ o.files.read path = .ok text

theorem isDelivered_of_success (h : delivered q files text = .ok o) (hstatus : o.status = success) :
    IsDelivered q.options.output files text o := by
  unfold delivered at h
  unfold IsDelivered
  cases houtput : q.options.output with
  | none =>
      rw [houtput] at h
      obtain rfl := Except.ok.inj h
      exact ⟨rfl, rfl⟩
  | some path =>
      rw [houtput] at h
      dsimp only at h ⊢
      split at h
      · cases h
      · cases hwrite : files.write path text with
        | ok fs =>
            rw [hwrite] at h
            obtain rfl := Except.ok.inj h
            exact ⟨rfl, rfl, Files.read_of_write hwrite⟩
        | error f =>
            rw [hwrite] at h
            obtain rfl := Except.ok.inj h
            cases hstatus

/-- A text that is not delivered leaves everything as it was. -/
theorem unchanged_of_delivered (h : delivered q files text = .ok o) (hstatus : o.status = failure) :
    o.output = "" ∧ o.files = files := by
  unfold delivered at h
  split at h
  · obtain rfl := Except.ok.inj h
    cases hstatus
  · split at h
    · cases h
    · split at h
      · obtain rfl := Except.ok.inj h
        cases hstatus
      · obtain rfl := Except.ok.inj h
        exact ⟨rfl, rfl⟩

theorem LoadsInto.issues_eq_nil (h : LoadsInto env files q r) : r.issues = [] := by
  cases h with
  | @intro d _ datum _ _ _ _ hload =>
      have hsound : ((fresh d q).load q.schema.text datum).1.IsSound :=
        (Registry.isSound_empty _).load q.schema.text datum
      rw [hload] at hsound
      exact hsound.issues_eq_nil

/-- The registry is what loading the file gives under the defaults of the environment. -/
theorem LoadsInto.exists_loadFile_run_fst (h : LoadsInto env files q r) :
    ∃ d, env.defaults = .ok d ∧ ∀ now,
      ((Session.loadFile (fresh d q) q.schema (files.read q.schema)).run now).1 = (r, .ok ()) := by
  obtain ⟨hd, hpath, htext, hdatum, hload⟩ := h
  refine ⟨_, hd, fun now => ?_⟩
  simp only [Session.loadFile_run_fst, SchemaFile.document, SchemaFile.parse, hpath, htext, hdatum,
    Bool.false_eq_true, if_false, hload]
  rfl

/-- A run with status 0 delivers what the generator that is asked for returns for the registry that
the schema file is loaded into, under the settings that a fresh process reads from the environment
with the style and the banner replaced where the options say so. A run with status 1 puts out
nothing and changes no file. -/
theorem run_delivers (env : Environment) (files : Files) (q : Request) (trace : Log.Trace)
    (o : Outcome) (h : ((run env files q).run trace).1 = .ok o) :
    (o.status = success → ∃ snapshot r text,
      (DefaultsCache.get env {}).1 = .ok snapshot ∧
      (∀ now, ((Session.loadFile
        { settings := { snapshot.defaults.generator with
            nullableStyle :=
              (q.options.nullableStyle.map .style).getD snapshot.defaults.generator.nullableStyle
            includeBanner :=
              if q.options.noBanner then false
              else snapshot.defaults.generator.includeBanner } }
        q.schema (files.read q.schema)).run now).1 = (r, .ok ())) ∧
      (∀ now, ((q.options.generate r).run now).1 = .ok text) ∧
      IsDelivered q.options.output files text o) ∧
    (o.status = failure → o.output = "" ∧ o.files = files) := by
  rw [run_run_fst] at h
  rcases loadsInto_cases env files q with ⟨r, hr⟩ | hfailed | hbreaks
  · rw [answer, hr.renderedText_eq, generatedText] at h
    cases hwanted : wanted q.options r with
    | error f =>
        cases f with
        | invalid issues => exact absurd hwanted (wanted_ne_invalid q.options r issues)
        | sql f => simp [hwanted] at h
        | typescript f => simp [hwanted] at h
    | ok text =>
        rw [hwanted] at h
        refine ⟨fun hstatus => ?_, unchanged_of_delivered h⟩
        obtain ⟨d, hd, hload⟩ := hr.exists_loadFile_run_fst
        refine ⟨⟨0, d⟩, r, text, ?_, ?_, ?_, isDelivered_of_success h hstatus⟩
        · rw [DefaultsCache.get_empty, hd]
          rfl
        · intro now
          rw [← override_eq]
          exact hload now
        · intro now
          rw [generate_run_fst hr.issues_eq_nil]
          exact hwanted
  · obtain rfl : failed files = o := Except.ok.inj (hfailed.symm.trans h)
    have hne : (failed files).status ≠ success := by simp [failed, failure, success]
    exact ⟨fun hstatus => absurd hstatus hne, fun _ => ⟨rfl, rfl⟩⟩
  · obtain ⟨b, hb⟩ := exists_answer_eq_error_iff.mpr hbreaks
    rw [hb] at h
    cases h

/-- A drop script is written over the file that was there. -/
theorem run_delivers_drop_script :
    let files := Files.ofList [("schema.yaml", "extensions: postgis\n"), ("drop.sql", "--\n")]
    let q : Request := ⟨Path.ofText "schema.yaml",
      { artifact := some .dropScript
        output := some (Path.ofText "drop.sql")
        noBanner := true }⟩
    ∃ o, ((run [] files q).run {}).1 = .ok o ∧ o.status = success ∧ o.output = "" ∧
      o.files.read (Path.ofText "drop.sql") = .ok "DROP EXTENSION IF EXISTS \"postgis\";\n" := by
  intro files q
  have hshown : (answer [] files q).toOption.map
      (fun o => (o.status, o.files.read (Path.ofText "drop.sql"))) =
        some (success, .ok "DROP EXTENSION IF EXISTS \"postgis\";\n") := by
    decide +kernel
  cases hanswer : answer [] files q with
  | error b => simp [hanswer, Except.toOption] at hshown
  | ok o =>
      have hrun : ((run [] files q).run {}).1 = .ok o := by rw [run_run_fst, hanswer]
      simp only [hanswer, Except.toOption, Option.map_some, Option.some.injEq,
        Prod.mk.injEq] at hshown
      obtain ⟨hstatus, hread⟩ := hshown
      obtain ⟨_, _, _, -, -, -, hdelivered⟩ := (run_delivers [] files q {} o hrun).1 hstatus
      exact ⟨o, hrun, hstatus, hdelivered.1, hread⟩

end CommandLine

end TableSchema
