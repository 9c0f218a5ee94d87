import Mathlib.Data.List.Induction
import TableSchema.Environment

/-!
# Defaults in the life of a process

A process changes its environment, asks for its defaults, forgets them and reads them afresh, in any
order. What it is answered when it asks depends on the past: the first reading that succeeds after
the defaults were forgotten is kept, and the same object is handed out until they are forgotten
again, whatever becomes of the environment meanwhile.

## Implementation notes

A history is a list of steps, and a moment in it is the list of the steps before. So the statements
speak of beginnings of a list, and the environment at a moment is the one after a beginning.
-/

namespace TableSchema

/-- What a process does with its environment and its defaults. -/
inductive ProcessStep where
  | set (name value : String)
  | unset (name : String)
  | reset
  | ask
  | read
deriving DecidableEq

/-- A process: its environment and the defaults that it keeps. -/
structure Process where
  environment : Environment
  cache : DefaultsCache := {}

namespace Process

/-- The answer when the process asks for its defaults. -/
def asked (p : Process) : Except ConfigurationFault Snapshot :=
  (p.cache.get p.environment).1

/-- The answer when the process reads its environment afresh. -/
def fresh (p : Process) : Except ConfigurationFault Snapshot :=
  (p.cache.read p.environment).1

/-- The process after a step. -/
def perform (p : Process) : ProcessStep → Process
  | .set name value => { p with environment := p.environment.set name value }
  | .unset name => { p with environment := p.environment.unset name }
  | .reset => { p with cache := p.cache.reset }
  | .ask => { p with cache := (p.cache.get p.environment).2 }
  | .read => { p with cache := (p.cache.read p.environment).2 }

/-- The process that starts in an environment, after steps. -/
def after (env : Environment) (steps : List ProcessStep) : Process :=
  steps.foldl perform { environment := env }

/-- The object was handed out for asking after `earlier`, and since then, up to the end of `steps`,
the defaults have not been forgotten. -/
def HandedOut (env : Environment) (steps earlier : List ProcessStep) (s : Snapshot) : Prop :=
  ∃ later, steps = earlier ++ .ask :: later ∧ .reset ∉ later ∧ (after env earlier).asked = .ok s

/-- The object was the answer at some step. -/
def Answered (env : Environment) (steps : List ProcessStep) (s : Snapshot) : Prop :=
  ∃ earlier later,
    (steps = earlier ++ .ask :: later ∧ (after env earlier).asked = .ok s) ∨
      (steps = earlier ++ .read :: later ∧ (after env earlier).fresh = .ok s)

variable {p q : Process} {s : Snapshot} {f : ConfigurationFault} {env : Environment}
  {steps : List ProcessStep}

theorem after_concat (env : Environment) (steps : List ProcessStep) (x : ProcessStep) :
    after env (steps ++ [x]) = (after env steps).perform x := by
  simp [after, List.foldl_append]

/-! ## One step -/

/-- A fresh reading is decided by the environment, and its number is the next one. -/
theorem fresh_eq (p : Process) :
    p.fresh = p.environment.defaults.map (Snapshot.mk p.cache.readings) := by
  unfold fresh DefaultsCache.read
  cases p.environment.defaults <;> rfl

/-- What asking can come to: the kept object, or a reading that is kept from now on, or a fault of
the environment that leaves everything as it is. -/
theorem asked_cases (p : Process) :
    (∃ s, p.cache.kept = some s ∧ p.asked = .ok s ∧ p.perform .ask = p) ∨
      (∃ d, p.cache.kept = none ∧ p.environment.defaults = .ok d ∧
        p.asked = .ok ⟨p.cache.readings, d⟩ ∧
        p.perform .ask =
          { p with cache := ⟨some ⟨p.cache.readings, d⟩, p.cache.readings + 1⟩ }) ∨
      ∃ f, p.cache.kept = none ∧ p.environment.defaults = .error f ∧ p.asked = .error f ∧
        p.perform .ask = p := by
  obtain ⟨env, kept, readings⟩ := p
  cases kept with
  | some s => exact Or.inl ⟨s, rfl, rfl, rfl⟩
  | none =>
      cases h : env.defaults with
      | ok d =>
          refine Or.inr (Or.inl ⟨d, rfl, rfl, ?_, ?_⟩) <;>
            simp only [asked, perform, DefaultsCache.get, DefaultsCache.read, h]
      | error f =>
          refine Or.inr (Or.inr ⟨f, rfl, rfl, ?_, ?_⟩) <;>
            simp only [asked, perform, DefaultsCache.get, DefaultsCache.read, h]

theorem asked_of_kept (h : p.cache.kept = some s) : p.asked = .ok s := by
  simp only [asked, DefaultsCache.get, h]

/-- An object that was handed out is kept. -/
theorem kept_perform_ask (h : p.asked = .ok s) : (p.perform .ask).cache.kept = some s := by
  rcases asked_cases p with ⟨s', hkept, hasked, hp⟩ | ⟨d, -, -, hasked, hp⟩ | ⟨f, -, -, hasked, -⟩
  · obtain rfl : s' = s := Except.ok.inj (hasked.symm.trans h)
    rw [hp, hkept]
  · rw [hp]
    exact congrArg some (Except.ok.inj (hasked.symm.trans h))
  · cases hasked.symm.trans h

/-- A fault of the environment leaves the process as it is, with nothing kept. -/
theorem perform_ask_of_error (h : p.asked = .error f) :
    p.cache.kept = none ∧ p.environment.defaults = .error f ∧ p.perform .ask = p := by
  rcases asked_cases p with ⟨s, -, hasked, -⟩ | ⟨d, -, -, hasked, -⟩ | ⟨f', hkept, hd, hasked, hp⟩
  · cases hasked.symm.trans h
  · cases hasked.symm.trans h
  · obtain rfl : f' = f := Except.error.inj (hasked.symm.trans h)
    exact ⟨hkept, hd, hp⟩

/-- Only forgetting takes away what is kept. -/
theorem kept_perform_of_kept (h : p.cache.kept = some s) {x : ProcessStep} (hx : x ≠ .reset) :
    (p.perform x).cache.kept = some s := by
  cases x with
  | set name value => exact h
  | unset name => exact h
  | reset => exact absurd rfl hx
  | ask => exact kept_perform_ask (asked_of_kept h)
  | read => exact (DefaultsCache.kept_read p.environment p.cache).trans h

/-- Only asking makes a process keep an object. -/
theorem eq_ask_of_kept_perform (h : p.cache.kept = none) {x : ProcessStep}
    (hx : (p.perform x).cache.kept = some s) : x = .ask ∧ p.asked = .ok s := by
  have hne : p.cache.kept ≠ some s := by simp [h]
  cases x with
  | set name value => exact absurd hx hne
  | unset name => exact absurd hx hne
  | reset => cases hx
  | read => exact absurd ((DefaultsCache.kept_read p.environment p.cache).symm.trans hx) hne
  | ask =>
      refine ⟨rfl, ?_⟩
      cases hasked : p.asked with
      | ok s' => exact congrArg _ (Option.some.inj ((kept_perform_ask hasked).symm.trans hx))
      | error f => exact absurd ((perform_ask_of_error hasked).2.2 ▸ hx) hne

/-! ## Histories -/

/-- An object that was handed out is kept until the defaults are forgotten. -/
theorem HandedOut.kept {earlier : List ProcessStep} (h : HandedOut env steps earlier s) :
    (after env steps).cache.kept = some s := by
  obtain ⟨later, rfl, hreset, hs⟩ := h
  induction later using List.reverseRecOn with
  | nil =>
      rw [after_concat]
      exact kept_perform_ask hs
  | append_singleton later x ih =>
      obtain ⟨hlater, hx⟩ : .reset ∉ later ∧ x ≠ .reset := by
        simpa [not_or, eq_comm] using hreset
      have hsplit : earlier ++ .ask :: (later ++ [x]) = (earlier ++ .ask :: later) ++ [x] := by
        simp
      rw [hsplit, after_concat]
      exact kept_perform_of_kept (ih hlater) hx

/-- What is kept was handed out at a moment when nothing was kept. -/
theorem exists_handedOut (h : (after env steps).cache.kept = some s) :
    ∃ earlier, HandedOut env steps earlier s ∧ (after env earlier).cache.kept = none := by
  induction steps using List.reverseRecOn with
  | nil => cases h
  | append_singleton steps x ih =>
      rw [after_concat] at h
      cases hkept : (after env steps).cache.kept with
      | none =>
          obtain ⟨rfl, hasked⟩ := eq_ask_of_kept_perform hkept h
          exact ⟨steps, ⟨[], rfl, List.not_mem_nil, hasked⟩, hkept⟩
      | some s' =>
          have hx : x ≠ .reset := by
            rintro rfl
            cases h
          obtain rfl : s' = s :=
            Option.some.inj ((kept_perform_of_kept hkept hx).symm.trans h)
          obtain ⟨earlier, ⟨later, rfl, hreset, hasked⟩, hempty⟩ := ih hkept
          refine ⟨earlier, ⟨later ++ [x], by simp, ?_, hasked⟩, hempty⟩
          simpa [not_or, eq_comm] using And.intro hreset hx

/-- An object that is handed out now was first handed out when the environment gave it. -/
theorem exists_first_of_asked (h : (after env steps).asked = .ok s) :
    ∃ earlier, HandedOut env (steps ++ [.ask]) earlier s ∧
      (after env earlier).environment.defaults = .ok s.defaults ∧
      ∀ before s', ¬ HandedOut env earlier before s' := by
  have hkept : (after env (steps ++ [.ask])).cache.kept = some s := by
    rw [after_concat]
    exact kept_perform_ask h
  obtain ⟨earlier, hout, hempty⟩ := exists_handedOut hkept
  refine ⟨earlier, hout, ?_, fun before s' hbefore => ?_⟩
  · obtain ⟨-, -, -, hasked⟩ := hout
    rcases asked_cases (after env earlier) with
      ⟨s', hs', -, -⟩ | ⟨d, -, hd, hasked', -⟩ | ⟨f, -, -, hasked', -⟩
    · cases hempty.symm.trans hs'
    · rw [hd, ← Except.ok.inj (hasked'.symm.trans hasked)]
    · cases hasked'.symm.trans hasked
  · cases hempty.symm.trans hbefore.kept

/-- While nothing is kept, asking is a fresh reading; this goes on until it succeeds. -/
theorem kept_append_of_empty (h : (after env steps).cache.kept = none) {more : List ProcessStep}
    (hmore : .ask ∉ more) : (after env (steps ++ more)).cache.kept = none := by
  induction more using List.reverseRecOn with
  | nil => rwa [List.append_nil]
  | append_singleton more x ih =>
      obtain ⟨hask, hx⟩ : .ask ∉ more ∧ x ≠ .ask := by
        simpa [not_or, eq_comm] using hmore
      rw [← List.append_assoc, after_concat]
      cases hkept : ((after env (steps ++ more)).perform x).cache.kept with
      | none => rfl
      | some s => exact absurd (eq_ask_of_kept_perform (ih hask) hkept).1 hx

theorem map_asked (p : Process) :
    p.asked.map (·.defaults) =
      ((p.cache.kept.map (·.defaults)).map Except.ok).getD p.environment.defaults := by
  rcases asked_cases p with
    ⟨s, hkept, hasked, -⟩ | ⟨d, hkept, hd, hasked, -⟩ | ⟨f, hkept, hd, hasked, -⟩
  · rw [hkept, hasked]
    rfl
  · rw [hkept, hd, hasked]
    rfl
  · rw [hkept, hd, hasked]
    rfl

/-! ## Fresh readings -/

/-- The processes have the same environment and keep the same defaults, if not the same object. -/
structure Agrees (p q : Process) : Prop where
  environment : p.environment = q.environment
  kept : p.cache.kept.map (·.defaults) = q.cache.kept.map (·.defaults)

theorem Agrees.map_asked (h : p.Agrees q) :
    p.asked.map (·.defaults) = q.asked.map (·.defaults) := by
  rw [Process.map_asked, Process.map_asked, h.kept, h.environment]

theorem map_kept_perform_ask (p : Process) :
    (p.perform .ask).cache.kept.map (·.defaults) = (p.asked.map (·.defaults)).toOption := by
  cases h : p.asked with
  | ok s =>
      rw [kept_perform_ask h]
      rfl
  | error f =>
      obtain ⟨hkept, -, hp⟩ := perform_ask_of_error h
      rw [hp, hkept]
      rfl

theorem Agrees.perform (h : p.Agrees q) (x : ProcessStep) : (p.perform x).Agrees (q.perform x) := by
  cases x with
  | set name value => exact ⟨congrArg (·.set name value) h.environment, h.kept⟩
  | unset name => exact ⟨congrArg (·.unset name) h.environment, h.kept⟩
  | reset => exact ⟨h.environment, rfl⟩
  | ask =>
      refine ⟨h.environment, ?_⟩
      rw [map_kept_perform_ask, map_kept_perform_ask, h.map_asked]
  | read =>
      refine ⟨h.environment, ?_⟩
      simpa only [Process.perform, DefaultsCache.kept_read] using h.kept

theorem agrees_perform_read (p : Process) : (p.perform .read).Agrees p :=
  ⟨rfl, congrArg _ (DefaultsCache.kept_read p.environment p.cache)⟩

theorem Agrees.trans {r : Process} (h : p.Agrees q) (h' : q.Agrees r) : p.Agrees r :=
  ⟨h.environment.trans h'.environment, h.kept.trans h'.kept⟩

/-- Fresh readings may be left out of a history. -/
theorem agrees_after_filter (env : Environment) (steps : List ProcessStep) :
    (after env steps).Agrees (after env (steps.filter (· ≠ .read))) := by
  induction steps using List.reverseRecOn with
  | nil => exact ⟨rfl, rfl⟩
  | append_singleton steps x ih =>
      rw [after_concat, List.filter_append]
      by_cases hx : x = .read
      · subst hx
        simpa using (agrees_perform_read _).trans ih
      · have hkeep : [x].filter (· ≠ .read) = [x] := by simp [hx]
        rw [hkeep, after_concat]
        exact ih.perform x

/-! ## Objects -/

theorem readings_le_perform (p : Process) (x : ProcessStep) :
    p.cache.readings ≤ (p.perform x).cache.readings := by
  cases x with
  | set name value => exact Nat.le_refl _
  | unset name => exact Nat.le_refl _
  | reset => exact Nat.le_refl _
  | ask =>
      rcases asked_cases p with ⟨s, -, -, hp⟩ | ⟨d, -, -, -, hp⟩ | ⟨f, -, -, -, hp⟩
      · exact Nat.le_of_eq (congrArg (·.cache.readings) hp.symm)
      · rw [hp]
        exact Nat.le_succ _
      · exact Nat.le_of_eq (congrArg (·.cache.readings) hp.symm)
  | read =>
      simp only [perform, DefaultsCache.read]
      cases p.environment.defaults with
      | ok d => exact Nat.le_succ _
      | error f => exact Nat.le_refl _

/-- A number that is used up stays used up. -/
theorem lt_readings_append {n : Nat} {earlier : List ProcessStep} {x : ProcessStep}
    (h : n < ((after env earlier).perform x).cache.readings) (later : List ProcessStep) :
    n < (after env (earlier ++ x :: later)).cache.readings := by
  induction later using List.reverseRecOn with
  | nil => rwa [after_concat]
  | append_singleton later y ih =>
      have hsplit : earlier ++ x :: (later ++ [y]) = (earlier ++ x :: later) ++ [y] := by simp
      rw [hsplit, after_concat]
      exact Nat.lt_of_lt_of_le ih (readings_le_perform _ y)

/-- What is kept is numbered below the next reading. -/
theorem serial_lt_of_kept (h : (after env steps).cache.kept = some s) :
    s.serial < (after env steps).cache.readings := by
  obtain ⟨earlier, ⟨later, rfl, -, hasked⟩, hempty⟩ := exists_handedOut h
  refine lt_readings_append ?_ later
  rcases asked_cases (after env earlier) with
    ⟨s', hs', -, -⟩ | ⟨d, -, -, hasked', hp⟩ | ⟨f, -, -, hasked', -⟩
  · cases hempty.symm.trans hs'
  · rw [hp, ← Except.ok.inj (hasked'.symm.trans hasked)]
    exact Nat.lt_succ_self _
  · cases hasked'.symm.trans hasked

/-- So is what was ever answered. -/
theorem Answered.serial_lt (h : Answered env steps s) :
    s.serial < (after env steps).cache.readings := by
  obtain ⟨earlier, later, ⟨rfl, hasked⟩ | ⟨rfl, hfresh⟩⟩ := h
  · refine lt_readings_append ?_ later
    have hkept := kept_perform_ask hasked
    rw [← after_concat] at hkept ⊢
    exact serial_lt_of_kept hkept
  · refine lt_readings_append ?_ later
    rw [fresh_eq] at hfresh
    simp only [perform, DefaultsCache.read]
    cases hd : (after env earlier).environment.defaults with
    | error f => simp [hd, Except.map] at hfresh
    | ok d =>
        obtain rfl : Snapshot.mk _ d = s := by simpa [hd, Except.map] using hfresh
        exact Nat.lt_succ_self _

/-- What a process is answered when it asks for its defaults. If it gets an object, this is the one
that the first successful asking since the defaults were last forgotten got, and the environment of
that moment gave its contents; and whatever was handed out since they were forgotten is this object.
If it gets a fault, the environment is at fault, nothing is kept, and the next asking depends on the
environment of its own moment. Fresh readings have no part in this: they depend on the environment
alone, leave alone what is kept, can be left out, and give objects that were never given before. -/
theorem asked_after (env : Environment) (steps : List ProcessStep) :
    (∀ s, (after env steps).asked = .ok s →
      ∃ earlier, HandedOut env (steps ++ [.ask]) earlier s ∧
        (after env earlier).environment.defaults = .ok s.defaults ∧
        ∀ before s', ¬ HandedOut env earlier before s') ∧
      (∀ earlier s, HandedOut env steps earlier s → (after env steps).asked = .ok s) ∧
      (∀ f, (after env steps).asked = .error f →
        (after env steps).environment.defaults = .error f ∧
          after env (steps ++ [.ask]) = after env steps ∧
          ∀ more, .ask ∉ more →
            (after env (steps ++ .ask :: more)).asked.map (·.defaults) =
              (after env (steps ++ .ask :: more)).environment.defaults) ∧
      (after env steps).fresh.map (·.defaults) = (after env steps).environment.defaults ∧
      (after env (steps ++ [.read])).cache.kept = (after env steps).cache.kept ∧
      (after env steps).asked.map (·.defaults) =
        (after env (steps.filter (· ≠ .read))).asked.map (·.defaults) ∧
      ∀ s s', (after env steps).fresh = .ok s → Answered env steps s' → s ≠ s' := by
  refine ⟨fun s h => exists_first_of_asked h, fun earlier s h => asked_of_kept h.kept,
    fun f h => ?_, ?_, ?_, (agrees_after_filter env steps).map_asked, fun s s' hs hs' => ?_⟩
  · obtain ⟨hkept, hd, hp⟩ := perform_ask_of_error h
    have hstay : after env (steps ++ [.ask]) = after env steps := (after_concat _ _ _).trans hp
    refine ⟨hd, hstay, fun more hmore => ?_⟩
    have hempty := kept_append_of_empty (hstay ▸ hkept) hmore
    rw [List.append_assoc, List.singleton_append] at hempty
    rw [map_asked, hempty]
    rfl
  · rw [fresh_eq]
    cases (after env steps).environment.defaults <;> rfl
  · rw [after_concat]
    exact DefaultsCache.kept_read _ _
  · rintro rfl
    have hlt := hs'.serial_lt
    rw [fresh_eq] at hs
    cases hd : (after env steps).environment.defaults with
    | error f => simp [hd, Except.map] at hs
    | ok d =>
        obtain rfl : Snapshot.mk _ d = s := by simpa [hd, Except.map] using hs
        exact absurd hlt (Nat.lt_irrefl _)

/-- An indent that is no number is not kept; a good one is, also after it has changed and been read
afresh, until the defaults are forgotten. -/
theorem asked_after_indents :
    let steps : List ProcessStep :=
      [.set "PGSCHEMA_SQL_INDENT" "wide", .ask, .set "PGSCHEMA_SQL_INDENT" "4", .ask,
        .set "PGSCHEMA_SQL_INDENT" "8", .read]
    let s : Snapshot := ⟨0, { generator := { sqlIndent := 4 }, log := {} }⟩
    (after [] [.set "PGSCHEMA_SQL_INDENT" "wide"]).asked =
        .error (.notInteger "PGSCHEMA_SQL_INDENT" "wide") ∧
      HandedOut [] steps (steps.take 3) s ∧ (after [] steps).asked = .ok s ∧
      (after [] (steps ++ [.reset])).asked.map (·.defaults.generator.sqlIndent) = .ok 8 := by
  intro steps s
  have hout : HandedOut [] steps (steps.take 3) s :=
    ⟨steps.drop 4, rfl, by decide, by decide +kernel⟩
  exact ⟨by decide +kernel, hout, (asked_after [] steps).2.1 _ s hout, by decide +kernel⟩

end Process

end TableSchema
