import TableSchema.Proofs.CommandLine.Answers
import TableSchema.Proofs.Document.Parts
import TableSchema.Proofs.Registry.Loads
import TableSchema.Proofs.Sql.Writability
import TableSchema.Proofs.TypeScript.Declarations

/-!
# How runs end

A run ends with status 0 or 1 unless it breaks off. With settings that cannot be read it ends at
once; with others it breaks off in four cases only: the path of the schema holds a null character; a
scalar of the schema file does not denote a value of its type; the create script of the schema that
was loaded cannot be written; or there is a text and the path for it holds a null character.
-/

namespace TableSchema.CommandLine

open Sql (CanBeWritten)

/-- The create script is what the options ask for. -/
def Options.AsksForCreateScript (o : Options) : Prop :=
  o.artifact = none ∨ o.artifact = some .createScript

/-- The schema file of a request is loaded into this registry. -/
inductive LoadsInto (env : Environment) (files : Files) (q : Request) (r : Registry) : Prop
  | intro {d : Defaults} {text : String} {datum : Datum} (hd : env.defaults = .ok d)
      (hpath : q.schema.holdsNul = false) (htext : files.read q.schema = .ok text)
      (hdatum : Yaml.read text = .ok datum)
      (hload : (fresh d q).load q.schema.text datum = (r, .ok ()))

/-- The ways in which a run breaks off. -/
inductive BreaksOff (env : Environment) (files : Files) (q : Request) : Prop
  | schemaPath {d : Defaults} (hd : env.defaults = .ok d) (hpath : q.schema.holdsNul = true)
  | scalar {d : Defaults} {text : String} {f : Yaml.Fault} (hd : env.defaults = .ok d)
      (hpath : q.schema.holdsNul = false) (htext : files.read q.schema = .ok text)
      (hf : Yaml.read text = .error f) (hscalar : f ≠ .malformed)
  | script {r : Registry} (hr : LoadsInto env files q r)
      (hasked : q.options.AsksForCreateScript)
      (hscript : ¬ CanBeWritten r.settings r.tables r.customTypes)
  | outputPath {r : Registry} {path : Path} (hr : LoadsInto env files q r)
      (hscript : q.options.AsksForCreateScript → CanBeWritten r.settings r.tables r.customTypes)
      (houtput : q.options.output = some path) (hpath : path.holdsNul = true)

variable {env : Environment} {files : Files} {q : Request} {r : Registry}

/-- The columns of a registry that was loaded have texts as their names. -/
theorem LoadsInto.nameText?_isSome (h : LoadsInto env files q r) :
    ∀ t ∈ r.tables, ∀ c ∈ t.columns, c.nameText?.isSome = true := by
  obtain ⟨-, -, -, -, hload⟩ := h
  obtain ⟨ds, hread, htables⟩ := Registry.tables_load_of_ok hload
  intro t ht
  rw [htables] at ht
  obtain ⟨u, hu, rfl⟩ := List.mem_map.mp ht
  exact Document.nameText?_isSome_of_read hread u hu

theorem wanted_ne_invalid (o : Options) (r : Registry) (issues : List Issue) :
    wanted o r ≠ .error (.invalid issues) := by
  unfold wanted
  split <;> exact Registry.mapError_ne_error (by simp) _

/-- The text that is asked for can be written unless it is a create script that cannot. -/
theorem LoadsInto.exists_wanted_iff (h : LoadsInto env files q r) (o : Options) :
    (∃ text, wanted o r = .ok text) ↔
      (o.AsksForCreateScript → CanBeWritten r.settings r.tables r.customTypes) := by
  unfold wanted Options.AsksForCreateScript
  split <;> rename_i hartifact <;> simp only [mapError_eq_ok_iff]
  · rw [TypeScript.exists_declarations_iff]
    simpa [hartifact] using h.nameText?_isSome
  · simp [hartifact, Sql.exists_dropScript]
  · simp [hartifact, Sql.exists_createScript_iff]
  · simp [hartifact, Sql.exists_createScript_iff]

theorem exists_delivered_eq_error_iff {text : String} :
    (∃ b, delivered q files text = .error b) ↔
      ∃ path, q.options.output = some path ∧ path.holdsNul = true := by
  unfold delivered
  cases q.options.output with
  | none => simp
  | some path =>
      cases hnul : path.holdsNul with
      | true => simp [hnul]
      | false => cases hwrite : files.write path text <;> simp [hnul, hwrite]

theorem LoadsInto.renderedText_eq (h : LoadsInto env files q r) :
    renderedText env q (files.read q.schema) = generatedText q.options r := by
  obtain ⟨hd, hpath, htext, hdatum, hload⟩ := h
  simp only [renderedText, SchemaFile.document, SchemaFile.parse, hd, hpath, htext, hdatum,
    Bool.false_eq_true, if_false, hload]

/-- What a run whose schema was loaded answers. -/
theorem LoadsInto.exists_answer_eq_error_iff (h : LoadsInto env files q r) :
    (∃ b, answer env files q = .error b) ↔
      (∃ f, wanted q.options r = .error f) ∨
        (∃ text, wanted q.options r = .ok text) ∧
          ∃ path, q.options.output = some path ∧ path.holdsNul = true := by
  rw [answer, h.renderedText_eq, generatedText]
  cases hwanted : wanted q.options r with
  | ok text => simp [exists_delivered_eq_error_iff]
  | error f =>
      cases f with
      | invalid issues => exact absurd hwanted (wanted_ne_invalid q.options r issues)
      | sql f => simp
      | typescript f => simp

/-- A run loads a registry, or it reports a failure, or the schema breaks it off. -/
theorem loadsInto_cases (env : Environment) (files : Files) (q : Request) :
    (∃ r, LoadsInto env files q r) ∨ answer env files q = .ok (failed files) ∨
      BreaksOff env files q := by
  cases hd : env.defaults with
  | error f => exact Or.inr (Or.inl (by simp [answer, renderedText, hd]))
  | ok d =>
      cases hpath : q.schema.holdsNul with
      | true => exact Or.inr (Or.inr (.schemaPath hd hpath))
      | false =>
          cases htext : files.read q.schema with
          | error f =>
              refine Or.inr (Or.inl ?_)
              simp [answer, renderedText, SchemaFile.document, hd, hpath, htext]
          | ok text =>
              cases hdatum : Yaml.read text with
              | error f =>
                  by_cases hf : f = .malformed
                  · refine Or.inr (Or.inl ?_)
                    simp [answer, renderedText, SchemaFile.document, SchemaFile.parse, hd, hpath,
                      htext, hdatum, hf]
                  · exact Or.inr (Or.inr (.scalar hd hpath htext hdatum hf))
              | ok datum =>
                  cases hload : (fresh d q).load q.schema.text datum with
                  | mk r result =>
                      cases result with
                      | ok _ => exact Or.inl ⟨r, .intro hd hpath htext hdatum hload⟩
                      | error e =>
                          refine Or.inr (Or.inl ?_)
                          simp [answer, renderedText, SchemaFile.document, SchemaFile.parse, hd,
                            hpath, htext, hdatum, hload]

/-- The answer is a breakdown in the ways in which a run breaks off and in no other. -/
theorem exists_answer_eq_error_iff :
    (∃ b, answer env files q = .error b) ↔ BreaksOff env files q := by
  constructor
  · rintro ⟨b, hb⟩
    rcases loadsInto_cases env files q with ⟨r, hr⟩ | hfailed | hbreaks
    · rcases hr.exists_answer_eq_error_iff.mp ⟨b, hb⟩ with ⟨f, hf⟩ | ⟨hwanted, path, houtput, hpath⟩
      · have hnot : ¬ ∃ text, wanted q.options r = .ok text := by simp [hf]
        rw [hr.exists_wanted_iff] at hnot
        obtain ⟨hasked, hscript⟩ := Classical.not_imp.mp hnot
        exact .script hr hasked hscript
      · exact .outputPath hr ((hr.exists_wanted_iff _).mp hwanted) houtput hpath
    · rw [hfailed] at hb
      cases hb
    · exact hbreaks
  · intro h
    cases h with
    | schemaPath hd hpath =>
        exact ⟨.nulInPath, by simp [answer, renderedText, SchemaFile.document, hd, hpath]⟩
    | scalar hd hpath htext hf hscalar =>
        rename_i f
        refine ⟨.scalar f, ?_⟩
        cases f <;> simp_all [answer, renderedText, SchemaFile.document, SchemaFile.parse]
    | script hr hasked hscript =>
        refine hr.exists_answer_eq_error_iff.mpr (Or.inl ?_)
        cases hwanted : wanted q.options _ with
        | error f => exact ⟨f, rfl⟩
        | ok text => exact absurd ((hr.exists_wanted_iff _).mp ⟨text, hwanted⟩ hasked) hscript
    | outputPath hr hscript houtput hpath =>
        exact hr.exists_answer_eq_error_iff.mpr
          (Or.inr ⟨(hr.exists_wanted_iff _).mpr hscript, _, houtput, hpath⟩)

end TableSchema.CommandLine
