import Mathlib.Data.List.Forall2
import TableSchema.Reading.Table

/-!
# Readings that succeed

A reading that is put together from parts succeeds if and only if the parts do, and then the objects
that they give are put together. Where an object was found says nothing about whether it was.
-/

namespace TableSchema.Reading

variable {α β : Type} {x : Reading α} {a : α} {b : β}

@[simp] theorem within_eq_ok_iff {s : Step} : within s x = .ok a ↔ x = .ok a := by
  cases x <;> simp [within]

theorem map_eq_ok_iff {f : α → β} : map f x = .ok b ↔ ∃ a, x = .ok a ∧ f a = b := by
  cases x <;> simp [map]

theorem fmap_eq_ok_iff {f : α → β} : (f <$> x) = .ok b ↔ ∃ a, x = .ok a ∧ f a = b :=
  map_eq_ok_iff

/-- Side by side both readings have to succeed. -/
theorem seq_eq_ok_iff {f : Reading (α → β)} :
    (f <*> x) = .ok b ↔ ∃ g a, f = .ok g ∧ x = .ok a ∧ g a = b := by
  have hseq : (f <*> x) = seq f fun _ => x := rfl
  rw [hseq]
  cases f <;> cases x <;> simp [seq]

theorem construct_eq_ok_iff {className : String} : x.construct className = .ok a ↔ x = .ok a := by
  cases x <;> simp [construct]

section Fields

variable {name : String} {entries : List (Datum × Datum)} {read : Datum → Reading α}

theorem required_eq_ok_iff :
    required name entries read = .ok a ↔
      ∃ d, Datum.field? name entries = some d ∧ read d = .ok a := by
  rw [required, within_eq_ok_iff]
  cases Datum.field? name entries <;> simp [fault]

theorem optional_eq_ok_iff {default : α} :
    optional name entries default read = .ok a ↔
      (∃ d, Datum.field? name entries = some d ∧ read d = .ok a) ∨
        Datum.field? name entries = none ∧ default = a := by
  rw [optional]
  cases Datum.field? name entries <;> simp

end Fields

section Sequences

variable {rs : List (Reading α)} {as : List α} {read : Datum → Reading α} {least : Nat} {d : Datum}

theorem all_eq_ok_iff : all rs = .ok as ↔ rs = as.map .ok := by
  induction rs generalizing as with
  | nil => cases as <;> simp [all]
  | cons r rs ih =>
      simp only [all, seq_eq_ok_iff, fmap_eq_ok_iff, ih]
      constructor
      · rintro ⟨_, rest, ⟨a, rfl, rfl⟩, rfl, rfl⟩
        rfl
      · intro h
        cases as with
        | nil => cases h
        | cons a as =>
            obtain ⟨rfl, rfl⟩ := List.cons.inj h
            exact ⟨_, as, ⟨a, rfl, rfl⟩, rfl, rfl⟩

theorem atLeast_eq_ok_iff {as : { as : List α // least ≤ as.length }} :
    atLeast least rs = .ok as ↔ rs = as.1.map .ok := by
  rw [← all_eq_ok_iff, atLeast]
  cases hall : all rs with
  | broken m => simp
  | faults fs => simp
  | ok bs =>
      simp only [Reading.ok.injEq]
      by_cases h : least ≤ bs.length
      · simp [h, Subtype.ext_iff]
      · simp only [h, dite_false, reduceCtorEq, false_iff]
        rintro rfl
        exact h as.2

/-- The places of the items do not matter. -/
theorem mapIdx_within_eq_iff {items : List Datum} (step : Nat → Step) :
    items.mapIdx (fun n item => within (step n) (read item)) = as.map .ok ↔
      items.map read = as.map .ok := by
  induction items generalizing as step with
  | nil => rw [List.mapIdx_nil, List.map_nil]
  | cons item items ih =>
      cases as with
      | nil => simp
      | cons a as =>
          rw [List.mapIdx_cons, List.map_cons, List.map_cons, List.cons.injEq, List.cons.injEq,
            within_eq_ok_iff, ih fun n => step (n + 1)]

theorem sequence_eq_ok_iff {as : { as : List α // least ≤ as.length }} :
    sequence least read d = .ok as ↔
      ∃ items, sequence? d = some items ∧ items.map read = as.1.map .ok := by
  rw [sequence]
  cases sequence? d with
  | none => simp [fault]
  | some items => simp [atLeast_eq_ok_iff, mapIdx_within_eq_iff]

theorem items_eq_ok_iff :
    items read d = .ok as ↔
      ∃ parts, sequence? d = some parts ∧ parts.map read = as.map .ok := by
  simp only [items, map_eq_ok_iff, sequence_eq_ok_iff]
  constructor
  · rintro ⟨bs, hbs, rfl⟩
    exact hbs
  · intro h
    exact ⟨⟨as, Nat.zero_le _⟩, h, rfl⟩

/-- What is read from an item was read by the reading of items. -/
theorem exists_item_of_mem {parts : List Datum} (h : parts.map read = as.map .ok) (ha : a ∈ as) :
    ∃ part ∈ parts, read part = .ok a := by
  have hmem : Reading.ok a ∈ parts.map read := h ▸ List.mem_map_of_mem ha
  exact List.mem_map.mp hmem

end Sequences

end TableSchema.Reading
