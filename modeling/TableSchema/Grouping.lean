/-!
# First occurrences and groups

Lists that stand for finite maps keep the order in which their keys come first.  `firsts` removes
repeats, `lookupFirst` takes the first entry of a key, and `grouped` collects the values of each key
in order; `addTo` puts one more value into such groups.
-/

namespace TableSchema

variable {κ : Type} {α : Type} [BEq κ]

/-- The list without the elements that occur earlier in it. -/
def firsts : List κ → List κ
  | [] => []
  | k :: ks => k :: (firsts ks).filter fun j => !(j == k)

/-- The list without the elements whose key is that of an earlier element. -/
def firstsBy (key : α → κ) : List α → List α
  | [] => []
  | a :: as => a :: (firstsBy key as).filter fun b => !(key b == key a)

/-- The value of the first entry with this key. -/
def lookupFirst (k : κ) : List (κ × α) → Option α
  | [] => none
  | e :: es => if e.1 == k then some e.2 else lookupFirst k es

/-- The keys in order of first occurrence, each with all its values in order. -/
def grouped (entries : List (κ × α)) : List (κ × List α) :=
  (firsts (entries.map (·.1))).map fun k =>
    (k, (entries.filter fun e => e.1 == k).map (·.2))

/-- The groups with `value` after the values of its key, or in a new group at the end. -/
def addTo (k : κ) (value : α) : List (κ × List α) → List (κ × List α)
  | [] => [(k, [value])]
  | g :: gs => if g.1 == k then (g.1, g.2 ++ [value]) :: gs else g :: addTo k value gs

/-- The entries with `value` at the place of the key, or at the end if the key is new. -/
def upsert (k : κ) (value : α) : List (κ × α) → List (κ × α)
  | [] => [(k, value)]
  | e :: es => if e.1 == k then (e.1, value) :: es else e :: upsert k value es

@[simp] theorem firsts_nil : firsts ([] : List κ) = [] := rfl

@[simp] theorem lookupFirst_nil (k : κ) : lookupFirst k ([] : List (κ × α)) = none := rfl

/-- The groups are keyed by the first occurrences of the keys. -/
theorem grouped_keys (entries : List (κ × α)) :
    (grouped entries).map (·.1) = firsts (entries.map (·.1)) := by
  simp [grouped, Function.comp_def]

/-- A test of keys that some entry passes is still passed after a value was put. -/
theorem any_upsert (test : κ → Bool) {entries : List (κ × α)}
    (h : entries.any (fun e => test e.1) = true) (k : κ) (value : α) :
    (upsert k value entries).any (fun e => test e.1) = true := by
  induction entries with
  | nil => simp at h
  | cons e es ih =>
    by_cases he : e.1 == k
    · simpa only [upsert, he, if_pos, List.any_cons] using h
    · rw [List.any_cons, Bool.or_eq_true] at h
      simp only [upsert, he]
      rw [if_neg Bool.false_ne_true, List.any_cons, Bool.or_eq_true]
      exact h.imp id ih

variable [LawfulBEq κ]

/-- The value that was put at a key is found there. -/
@[simp] theorem lookupFirst_upsert_self (k : κ) (value : α) (entries : List (κ × α)) :
    lookupFirst k (upsert k value entries) = some value := by
  induction entries with
  | nil => simp [upsert, lookupFirst]
  | cons e es ih =>
    by_cases h : e.1 == k <;> simp [upsert, lookupFirst, h, ih]

/-- Putting a value at one key leaves the others alone. -/
theorem lookupFirst_upsert_of_ne {j k : κ} (h : j ≠ k) (value : α) (entries : List (κ × α)) :
    lookupFirst j (upsert k value entries) = lookupFirst j entries := by
  induction entries with
  | nil => simp [upsert, lookupFirst, Ne.symm h]
  | cons e es ih =>
    by_cases he : e.1 == k
    · have hj : (e.1 == j) = false := by
        simpa [eq_of_beq he] using Ne.symm h
      simp [upsert, lookupFirst, he, hj]
    · simp [upsert, lookupFirst, he, ih]

end TableSchema
