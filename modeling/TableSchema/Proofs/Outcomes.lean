import Mathlib.Data.List.Forall2

/-!
# Steps that may fail

A pass through a list whose steps may fail goes through if every step does, and then gives what the
steps give, in their order.
-/

namespace TableSchema

variable {ε α β : Type}

theorem mapM_eq_ok_iff {f : α → Except ε β} {as : List α} {bs : List β} :
    as.mapM f = .ok bs ↔ List.Forall₂ (fun a b => f a = .ok b) as bs := by
  induction as generalizing bs with
  | nil =>
      rw [List.forall₂_nil_left_iff]
      exact ⟨fun h => (Except.ok.inj h).symm, fun h => congrArg Except.ok h.symm⟩
  | cons a as ih =>
      have hcons : (a :: as).mapM f = (f a).bind fun b => (as.mapM f).bind fun rest =>
          .ok (b :: rest) :=
        List.mapM_cons
      rw [hcons]
      constructor
      · intro h
        cases hb : f a with
        | error e => simp [hb, Except.bind] at h
        | ok b =>
            cases hrest : as.mapM f with
            | error e => simp [hb, hrest, Except.bind] at h
            | ok rest =>
                obtain rfl : b :: rest = bs := by simpa [hb, hrest, Except.bind] using h
                exact List.Forall₂.cons hb (ih.mp hrest)
      · intro h
        obtain ⟨b, rest, hb, hrest, rfl⟩ := List.forall₂_cons_left_iff.mp h
        rw [hb, ih.mpr hrest]
        rfl

/-- Every result of a pass comes from some step. -/
theorem exists_of_mem_of_mapM {f : α → Except ε β} {as : List α} {bs : List β} {b : β}
    (h : as.mapM f = .ok bs) (hb : b ∈ bs) : ∃ a ∈ as, f a = .ok b := by
  have hall := mapM_eq_ok_iff.mp h
  clear h
  induction hall with
  | nil => cases hb
  | @cons a c as bs hac _ ih =>
      rcases List.mem_cons.mp hb with rfl | hb
      · exact ⟨a, List.mem_cons_self, hac⟩
      · obtain ⟨a', ha', hab⟩ := ih hb
        exact ⟨a', List.mem_cons_of_mem a ha', hab⟩

/-- The fault of a pass comes from some step. -/
theorem exists_of_mapM_eq_error {f : α → Except ε β} {as : List α} {e : ε}
    (h : as.mapM f = .error e) : ∃ a ∈ as, f a = .error e := by
  induction as with
  | nil => cases h
  | cons a as ih =>
      rw [List.mapM_cons] at h
      cases ha : f a with
      | error d =>
          rw [ha] at h
          exact ⟨a, List.mem_cons_self, ha.trans (congrArg _ (Except.error.inj h))⟩
      | ok b =>
          cases hrest : as.mapM f with
          | error d =>
              rw [ha, hrest] at h
              obtain rfl : d = e := Except.error.inj h
              obtain ⟨a', ha', hfault⟩ := ih hrest
              exact ⟨a', List.mem_cons_of_mem a ha', hfault⟩
          | ok bs =>
              rw [ha, hrest] at h
              cases h

/-- A pass through a list gives results of one kind if every step does. -/
theorem exists_mapM_iff {f : α → Except ε β} {p : β → Prop} {as : List α} :
    (∃ bs, as.mapM f = .ok bs ∧ ∀ b ∈ bs, p b) ↔ ∀ a ∈ as, ∃ b, f a = .ok b ∧ p b := by
  simp only [mapM_eq_ok_iff]
  induction as with
  | nil => simp
  | cons a as ih =>
      rw [List.forall_mem_cons, ← ih]
      constructor
      · rintro ⟨bs, hbs, hp⟩
        obtain ⟨b, rest, hb, hrest, rfl⟩ := List.forall₂_cons_left_iff.mp hbs
        obtain ⟨hpb, hprest⟩ := List.forall_mem_cons.mp hp
        exact ⟨⟨b, hb, hpb⟩, rest, hrest, hprest⟩
      · rintro ⟨⟨b, hb, hpb⟩, rest, hrest, hprest⟩
        exact ⟨b :: rest, List.Forall₂.cons hb hrest, List.forall_mem_cons.mpr ⟨hpb, hprest⟩⟩

/-- A pass through a list goes through if every step does. -/
theorem exists_mapM_eq_ok_iff {f : α → Except ε β} {as : List α} :
    (∃ bs, as.mapM f = .ok bs) ↔ ∀ a ∈ as, ∃ b, f a = .ok b := by
  have hall := @exists_mapM_iff ε α β f (fun _ => True) as
  simp only [implies_true, and_true] at hall
  exact hall

/-- Steps that cannot fail are a map. -/
theorem mapM_eq_ok_map {f : α → Except ε β} {g : α → β} {as : List α}
    (h : ∀ a ∈ as, f a = .ok (g a)) : as.mapM f = .ok (as.map g) :=
  mapM_eq_ok_iff.mpr (List.forall₂_map_right_iff.mpr (List.forall₂_same.mpr h))

/-- The fault of an outcome, if it is one. -/
def fault? : Except ε α → Option ε
  | .error e => some e
  | .ok _ => none

theorem toOption_eq_some_iff {x : Except ε α} {a : α} : x.toOption = some a ↔ x = .ok a := by
  cases x <;> simp [Except.toOption]

theorem bind_eq_ok_iff {x : Except ε α} {f : α → Except ε β} {b : β} :
    (x >>= f) = .ok b ↔ ∃ a, x = .ok a ∧ f a = .ok b := by
  cases x <;> simp [bind, Except.bind]

theorem map_eq_ok_iff {f : α → β} {x : Except ε α} {b : β} :
    x.map f = .ok b ↔ ∃ a, x = .ok a ∧ f a = b := by
  cases x with
  | error e => simp [Except.map]
  | ok a => simp [Except.map]

theorem map_eq_error_iff {f : α → β} {x : Except ε α} {e : ε} :
    x.map f = .error e ↔ x = .error e := by
  cases x <;> simp [Except.map]

@[simp] theorem mapError_eq_ok_iff {δ : Type} {f : ε → δ} {x : Except ε α} {a : α} :
    x.mapError f = .ok a ↔ x = .ok a := by
  cases x <;> simp [Except.mapError]

end TableSchema
