import Mathlib.Data.List.Induction
import Mathlib.Data.List.Nodup
import TableSchema.Datum
import TableSchema.Proofs.Occurrences

/-!
# Fields of a mapping

A text is the same key only as itself. So the value that is put for a field is found there, and the
values of all other fields stay as they were. Among entries that are written one after the other a
field keeps the place where it came first and has the value that came last.
-/

namespace TableSchema.Datum

variable {name : String} {key : Datum} {entries : List (Datum × Datum)}

@[simp] theorem text_inj {s t : String} : text s = text t ↔ s = t := by
  simp [text]

theorem same_text_iff {d : Datum} {s : String} : d.same (text s) = true ↔ d = text s := by
  cases d with
  | atom a => cases a <;> simp [same, text, Atom.same, Atom.quantity?]
  | _ => simp [same, text]

theorem text_same_iff {d : Datum} {s : String} : (text s).same d = true ↔ d = text s := by
  cases d with
  | atom a =>
      cases a with
      | text t => simpa [same, text, Atom.same, Atom.quantity?] using eq_comm
      | _ => simp [same, text, Atom.same, Atom.quantity?]
  | _ => simp [same, text]

theorem text?_eq_some_iff {d : Datum} {s : String} : d.text? = some s ↔ d = text s := by
  unfold text?
  split <;> simp_all [text]

@[simp] theorem field?_nil : field? name [] = none := rfl

@[simp] theorem field?_cons_self (name : String) (value : Datum) (entries : List (Datum × Datum)) :
    field? name ((text name, value) :: entries) = some value := by
  simp [field?]

theorem field?_cons_of_ne (h : key ≠ text name) (value : Datum) (entries : List (Datum × Datum)) :
    field? name ((key, value) :: entries) = field? name entries := by
  have hkey : (key.text? == some name) = false := by
    rw [beq_eq_false_iff_ne]
    exact mt text?_eq_some_iff.mp h
  simp [field?, hkey]

@[simp] theorem field?_text_cons (key name : String) (value : Datum)
    (entries : List (Datum × Datum)) :
    field? name ((text key, value) :: entries) =
      if key = name then some value else field? name entries := by
  split
  · rename_i h
    rw [h, field?_cons_self]
  · rename_i h
    exact field?_cons_of_ne (mt text_inj.mp h) value entries

/-- The value that was put for a field is found there, and the other fields are as before. -/
@[simp] theorem field?_putEntry (key name : String) (value : Datum)
    (entries : List (Datum × Datum)) :
    field? name (putEntry (text key) value entries) =
      if key = name then some value else field? name entries := by
  induction entries with
  | nil => rw [putEntry, field?_text_cons]
  | cons e entries ih =>
      obtain ⟨k, v⟩ := e
      by_cases hk : k = text key
      · rw [putEntry, if_pos (same_text_iff.mpr hk), hk, field?_text_cons, field?_text_cons]
        split <;> rfl
      · rw [putEntry, if_neg (mt same_text_iff.mp hk)]
        by_cases hn : k = text name
        · have hne : key ≠ name := by
            rintro rfl
            exact hk hn
          rw [hn, field?_cons_self, field?_cons_self, if_neg hne]
        · rw [field?_cons_of_ne hn, field?_cons_of_ne hn, ih]

/-! ## Entries with different keys -/

theorem putEntry_of_forall_ne (h : ∀ e ∈ entries, e.1 ≠ text name) (value : Datum) :
    putEntry (text name) value entries = entries ++ [(text name, value)] := by
  induction entries with
  | nil => rfl
  | cons e entries ih =>
      obtain ⟨he, hrest⟩ := List.forall_mem_cons.mp h
      rw [putEntry, if_neg (mt same_text_iff.mp he), ih hrest, List.cons_append]

/-- Entries whose keys are different texts are a mapping as they stand. -/
theorem entriesOf_eq_self (htexts : ∀ e ∈ entries, ∃ n, e.1 = text n)
    (h : (entries.map (·.1)).Nodup) : entriesOf entries = entries := by
  induction entries using List.reverseRecOn with
  | nil => rfl
  | append_singleton es e ih =>
      obtain ⟨hes, he⟩ := List.forall_mem_append.mp htexts
      obtain ⟨n, hn⟩ := he e List.mem_cons_self
      rw [List.map_append, List.nodup_append'] at h
      obtain ⟨hnodup, -, hdisjoint⟩ := h
      have hnew : ∀ e' ∈ es, e'.1 ≠ text n := by
        intro e' he' heq
        exact hdisjoint (List.mem_map_of_mem he') (by simp [heq, hn])
      calc
        entriesOf (es ++ [e]) = putEntry e.1 e.2 (entriesOf es) := by
          rw [entriesOf, putAll, List.foldl_append]
          rfl
        _ = es ++ [e] := by
          rw [ih hes hnodup, hn, putEntry_of_forall_ne hnew, ← hn]

theorem text_injective : Function.Injective text := fun _ _ => text_inj.mp

/-- Entries under different names are a mapping as they stand. -/
theorem entriesOf_map_eq_self {α : Type} {name : α → String} {value : α → Datum} {as : List α}
    (h : (as.map name).Nodup) :
    entriesOf (as.map fun a => (text (name a), value a)) =
      as.map fun a => (text (name a), value a) := by
  apply entriesOf_eq_self
  · intro e he
    obtain ⟨a, -, rfl⟩ := List.mem_map.mp he
    exact ⟨name a, rfl⟩
  · rw [List.map_map]
    have hkeys : (as.map name).map text = as.map (Prod.fst ∘ fun a => (text (name a), value a)) := by
      rw [List.map_map]
      rfl
    exact hkeys ▸ h.map text_injective

/-! ## Entries that are written one after the other -/

/-- The texts among the keys of entries. -/
def textKeys (entries : List (Datum × Datum)) : List String :=
  entries.filterMap fun e => e.1.text?

/-- The value of the last entry for a field. -/
def lastField? (name : String) (entries : List (Datum × Datum)) : Option Datum :=
  (entries.filter fun e => e.1.text? = some name).getLast?.map (·.2)

theorem textKeys_cons (e : Datum × Datum) (entries : List (Datum × Datum)) :
    textKeys (e :: entries) = e.1.text?.toList ++ textKeys entries := by
  cases h : e.1.text? <;> simp [textKeys, h]

theorem textKeys_concat (entries : List (Datum × Datum)) (e : Datum × Datum) :
    textKeys (entries ++ [e]) = textKeys entries ++ e.1.text?.toList := by
  cases h : e.1.text? <;> simp [textKeys, h]

theorem entriesOf_concat (pairs : List (Datum × Datum)) (e : Datum × Datum) :
    entriesOf (pairs ++ [e]) = putEntry e.1 e.2 (entriesOf pairs) := by
  simp [entriesOf, putAll]

/-- A key that is no text is the same as no text. -/
theorem text?_eq_none_of_same (h : key.text? = none) {d : Datum} (hd : d.same key = true) :
    d.text? = none := by
  cases hs : d.text? with
  | none => rfl
  | some s =>
      rw [text?_eq_some_iff.mp hs, text_same_iff] at hd
      rw [hd, text?_text] at h
      cases h

theorem textKeys_putEntry_of_text?_eq_none (h : key.text? = none) (value : Datum)
    (entries : List (Datum × Datum)) : textKeys (putEntry key value entries) = textKeys entries := by
  induction entries with
  | nil => rw [putEntry, textKeys_cons, h, Option.toList_none, List.nil_append]
  | cons e entries ih =>
      rw [putEntry]
      split
      · rw [textKeys_cons, textKeys_cons]
      · rw [textKeys_cons, textKeys_cons, ih]

theorem textKeys_putEntry_of_mem (h : name ∈ textKeys entries) (value : Datum) :
    textKeys (putEntry (text name) value entries) = textKeys entries := by
  induction entries with
  | nil => cases h
  | cons e entries ih =>
      by_cases he : e.1 = text name
      · rw [putEntry, if_pos (same_text_iff.mpr he), textKeys_cons, textKeys_cons]
      · have hfirst : name ∉ e.1.text?.toList := by
          rw [Option.mem_toList]
          exact mt text?_eq_some_iff.mp he
        rw [textKeys_cons] at h
        rw [putEntry, if_neg (mt same_text_iff.mp he), textKeys_cons, textKeys_cons,
          ih ((List.mem_append.mp h).resolve_left hfirst)]

theorem textKeys_putEntry_of_notMem (h : name ∉ textKeys entries) (value : Datum) :
    textKeys (putEntry (text name) value entries) = textKeys entries ++ [name] := by
  have hne : ∀ e ∈ entries, e.1 ≠ text name := by
    intro e he hkey
    exact h (List.mem_filterMap.mpr ⟨e, he, text?_eq_some_iff.mpr hkey⟩)
  rw [putEntry_of_forall_ne hne, textKeys_concat]
  rfl

theorem field?_putEntry_of_text?_eq_none (h : key.text? = none) (name : String) (value : Datum)
    (entries : List (Datum × Datum)) :
    field? name (putEntry key value entries) = field? name entries := by
  have hne {d : Datum} (hd : d.text? = none) : d ≠ text name := by
    rintro rfl
    cases hd
  induction entries with
  | nil => rw [putEntry, field?_cons_of_ne (hne h)]
  | cons e entries ih =>
      obtain ⟨k, v⟩ := e
      rw [putEntry]
      split
      · rename_i hsame
        have hk := hne (text?_eq_none_of_same h hsame)
        rw [field?_cons_of_ne hk, field?_cons_of_ne hk]
      · by_cases hk : k = text name
        · rw [hk, field?_cons_self, field?_cons_self]
        · rw [field?_cons_of_ne hk, field?_cons_of_ne hk, ih]

theorem lastField?_concat (name : String) (entries : List (Datum × Datum)) (e : Datum × Datum) :
    lastField? name (entries ++ [e]) =
      if e.1.text? = some name then some e.2 else lastField? name entries := by
  rw [lastField?, List.filter_append]
  by_cases h : e.1.text? = some name <;> simp [h, lastField?]

/-- A field keeps the place where it came first. -/
theorem textKeys_entriesOf (pairs : List (Datum × Datum)) :
    textKeys (entriesOf pairs) = firsts (textKeys pairs) := by
  induction pairs using List.reverseRecOn with
  | nil => rfl
  | append_singleton pairs e ih =>
      rw [entriesOf_concat, textKeys_concat]
      cases htext : e.1.text? with
      | none =>
          rw [textKeys_putEntry_of_text?_eq_none htext, ih, Option.toList_none, List.append_nil]
      | some s =>
          have hmem : s ∈ textKeys (entriesOf pairs) ↔ s ∈ textKeys pairs := by rw [ih, mem_firsts]
          rw [text?_eq_some_iff.mp htext, Option.toList_some]
          by_cases hs : s ∈ textKeys pairs
          · rw [textKeys_putEntry_of_mem (hmem.mpr hs), firsts_concat_of_mem hs, ih]
          · rw [textKeys_putEntry_of_notMem (mt hmem.mp hs), firsts_concat_of_notMem hs, ih]

/-- A field has the value that came last. -/
theorem field?_entriesOf (name : String) (pairs : List (Datum × Datum)) :
    field? name (entriesOf pairs) = lastField? name pairs := by
  induction pairs using List.reverseRecOn with
  | nil => rfl
  | append_singleton pairs e ih =>
      rw [entriesOf_concat, lastField?_concat]
      cases htext : e.1.text? with
      | none => simpa using (field?_putEntry_of_text?_eq_none htext name e.2 _).trans ih
      | some s =>
          rw [text?_eq_some_iff.mp htext, field?_putEntry, ih]
          simp only [Option.some.injEq]

end TableSchema.Datum
