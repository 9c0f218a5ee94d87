import Mathlib.Algebra.GroupWithZero.Nat
import Mathlib.Data.List.Induction
import Mathlib.Data.List.Nodup
import TableSchema.Grouping

/-!
# Laws of first occurrences and groups

The list functions of `TableSchema.Grouping` spelled out by membership: what the first occurrences
are, which entry a lookup takes, what groups hold that are collected one value at a time, and when no
group holds two values.
-/

namespace TableSchema

variable {κ : Type} {α β : Type} [BEq κ] [LawfulBEq κ]

theorem mem_firsts {k : κ} {ks : List κ} : k ∈ firsts ks ↔ k ∈ ks := by
  induction ks with
  | nil => simp [firsts]
  | cons j js ih =>
      by_cases h : k = j
      · simp [firsts, h]
      · simp [firsts, h, ih]

theorem nodup_firsts (ks : List κ) : (firsts ks).Nodup := by
  induction ks with
  | nil => simp [firsts]
  | cons j js ih =>
      rw [firsts, List.nodup_cons]
      exact ⟨by simp, ih.filter _⟩

omit [LawfulBEq κ] in
theorem firsts_eq_nil_iff {ks : List κ} : firsts ks = [] ↔ ks = [] := by
  cases ks <;> simp [firsts]

omit [LawfulBEq κ] in
theorem map_firstsBy (key : α → κ) (as : List α) :
    (firstsBy key as).map key = firsts (as.map key) := by
  induction as with
  | nil => rfl
  | cons a as ih =>
      rw [List.map_cons, firstsBy, firsts, List.map_cons, ← ih, List.filter_map]
      rfl

theorem nodup_map_firstsBy (key : α → κ) (as : List α) : ((firstsBy key as).map key).Nodup :=
  map_firstsBy key as ▸ nodup_firsts _

/-- The elements that are kept are those that a search for their keys finds. -/
theorem mem_firstsBy {key : α → κ} {a : α} {as : List α} :
    a ∈ firstsBy key as ↔ as.find? (fun b => key b == key a) = some a := by
  induction as with
  | nil => simp [firstsBy]
  | cons b bs ih =>
      rw [firstsBy, List.mem_cons, List.mem_filter, ih, List.find?_cons]
      by_cases h : key b = key a
      · have hb : (key b == key a) = true := by simp [h]
        simp [h, eq_comm]
      · have hb : (key b == key a) = false := by simp [h]
        have hne : a ≠ b := fun e => h (congrArg key e).symm
        simp [hb, hne, Ne.symm h]

/-- Of two lists in a row the first keeps its first elements, the second those with new keys. -/
theorem firstsBy_append (key : α → κ) (as bs : List α) :
    firstsBy key (as ++ bs) =
      firstsBy key as ++ (firstsBy key bs).filter fun b => !(as.map key).contains (key b) := by
  induction as with
  | nil => simp [firstsBy]
  | cons a as ih =>
      rw [List.cons_append, firstsBy, ih, firstsBy, List.filter_append, List.filter_filter,
        List.cons_append]
      refine congrArg _ (congrArg _ (List.filter_congr fun b _ => ?_))
      simp

/-- One more element is kept if its key is new. -/
theorem firstsBy_concat_of_notMem {key : α → κ} {a : α} {as : List α}
    (h : key a ∉ as.map key) : firstsBy key (as ++ [a]) = firstsBy key as ++ [a] := by
  have ha : (as.map key).contains (key a) = false := by simpa using h
  rw [firstsBy_append]
  simp only [firstsBy, List.filter_nil, List.filter_cons, ha, Bool.not_false, if_true]

/-- One more element is dropped if its key has come before. -/
theorem firstsBy_concat_of_mem {key : α → κ} {a : α} {as : List α} (h : key a ∈ as.map key) :
    firstsBy key (as ++ [a]) = firstsBy key as := by
  have ha : (as.map key).contains (key a) = true := by simpa using h
  rw [firstsBy_append]
  simp only [firstsBy, List.filter_nil, List.filter_cons, ha, Bool.not_true, Bool.false_eq_true,
    if_false, List.append_nil]

omit [LawfulBEq κ] in
theorem firsts_eq_firstsBy (ks : List κ) : firsts ks = firstsBy id ks := by
  simpa using (map_firstsBy id ks).symm

theorem firsts_concat_of_mem {k : κ} {ks : List κ} (h : k ∈ ks) :
    firsts (ks ++ [k]) = firsts ks := by
  rw [firsts_eq_firstsBy, firsts_eq_firstsBy, firstsBy_concat_of_mem (by simpa using h)]

theorem firsts_concat_of_notMem {k : κ} {ks : List κ} (h : k ∉ ks) :
    firsts (ks ++ [k]) = firsts ks ++ [k] := by
  rw [firsts_eq_firstsBy, firsts_eq_firstsBy, firstsBy_concat_of_notMem (by simpa using h)]

theorem firstsBy_eq_self {key : α → κ} {as : List α} (h : (as.map key).Nodup) :
    firstsBy key as = as := by
  induction as with
  | nil => rfl
  | cons a as ih =>
      obtain ⟨ha, has⟩ := List.nodup_cons.mp h
      rw [firstsBy, ih has, List.filter_eq_self.mpr]
      intro b hb
      simpa using fun e : key b = key a => ha (e ▸ List.mem_map_of_mem hb)

theorem firsts_eq_self {ks : List κ} (h : ks.Nodup) : firsts ks = ks := by
  rw [firsts_eq_firstsBy, firstsBy_eq_self (by simpa using h)]

/-- It is all the same whether the parts are reduced to their first elements before. -/
theorem firstsBy_flatMap_firstsBy (key : α → κ) (f : β → List α) (bs : List β) :
    firstsBy key (bs.flatMap fun b => firstsBy key (f b)) = firstsBy key (bs.flatMap f) := by
  induction bs with
  | nil => rfl
  | cons b bs ih =>
      rw [List.flatMap_cons, List.flatMap_cons, firstsBy_append, firstsBy_append, ih,
        firstsBy_eq_self (nodup_map_firstsBy key (f b)), map_firstsBy]
      refine congrArg _ (List.filter_congr fun a _ => ?_)
      simp [mem_firsts]

omit [LawfulBEq κ] in
theorem lookupFirst_append (k : κ) (es fs : List (κ × α)) :
    lookupFirst k (es ++ fs) = (lookupFirst k es).or (lookupFirst k fs) := by
  induction es with
  | nil => rfl
  | cons e es ih =>
      by_cases h : e.1 == k
      · simp [lookupFirst, h]
      · simp [lookupFirst, h, ih]

omit [LawfulBEq κ] in
/-- A lookup in concatenated entries goes through the parts in their order. -/
theorem lookupFirst_flatMap (k : κ) (entries : β → List (κ × α)) (bs : List β) :
    lookupFirst k (bs.flatMap entries) = bs.findSome? fun b => lookupFirst k (entries b) := by
  induction bs with
  | nil => rfl
  | cons b bs ih =>
      rw [List.flatMap_cons, lookupFirst_append, ih, List.findSome?_cons]
      cases lookupFirst k (entries b) <;> rfl

theorem mem_of_lookupFirst {k : κ} {a : α} {es : List (κ × α)}
    (h : lookupFirst k es = some a) : (k, a) ∈ es := by
  induction es with
  | nil => simp at h
  | cons e es ih =>
      by_cases he : e.1 == k
      · have hv : e.2 = a := by simpa [lookupFirst, he] using h
        exact List.mem_cons.mpr (Or.inl (Prod.ext (eq_of_beq he).symm hv.symm))
      · exact List.mem_cons_of_mem _ (ih (by simpa [lookupFirst, he] using h))

theorem lookupFirst_eq_none_iff {k : κ} {es : List (κ × α)} :
    lookupFirst k es = none ↔ k ∉ es.map (·.1) := by
  induction es with
  | nil => simp
  | cons e es ih =>
      by_cases he : e.1 = k
      · simp [lookupFirst, he]
      · simp [lookupFirst, he, ih, Ne.symm he]

/-- A key of some entry has a first entry. -/
theorem exists_lookupFirst {k : κ} {a : α} {es : List (κ × α)} (h : (k, a) ∈ es) :
    ∃ b, lookupFirst k es = some b := by
  cases hl : lookupFirst k es with
  | some b => exact ⟨b, rfl⟩
  | none => exact absurd (List.mem_map_of_mem (f := (·.1)) h) (lookupFirst_eq_none_iff.mp hl)

/-! ## Groups that are collected one value at a time -/

theorem addTo_map_of_notMem {k : κ} {ks : List κ} (h : k ∉ ks) (value : α) (values : κ → List α) :
    addTo k value (ks.map fun j => (j, values j)) =
      (ks.map fun j => (j, values j)) ++ [(k, [value])] := by
  induction ks with
  | nil => rfl
  | cons j js ih =>
      obtain ⟨hj, hjs⟩ : k ≠ j ∧ k ∉ js := by simpa using h
      have hne : ¬ (j == k) = true := by simpa using Ne.symm hj
      rw [List.map_cons, addTo, if_neg hne, ih hjs, List.cons_append]

theorem addTo_map_of_mem {k : κ} {ks : List κ} (hks : ks.Nodup) (h : k ∈ ks) (value : α)
    (values : κ → List α) :
    addTo k value (ks.map fun j => (j, values j)) =
      ks.map fun j => (j, values j ++ if j == k then [value] else []) := by
  induction ks with
  | nil => cases h
  | cons j js ih =>
      obtain ⟨hj, hjs⟩ := List.nodup_cons.mp hks
      rw [List.map_cons, List.map_cons, addTo]
      by_cases he : j = k
      · have hrest : js.map (fun i => (i, values i ++ if i == k then [value] else [])) =
            js.map fun i => (i, values i) := by
          refine List.map_congr_left fun i hi => ?_
          have hne : ¬ (i == k) = true := by
            rw [beq_iff_eq]
            rintro rfl
            exact hj (he ▸ hi)
          rw [if_neg hne, List.append_nil]
        rw [if_pos (beq_iff_eq.mpr he), if_pos (beq_iff_eq.mpr he), hrest]
      · have hne : ¬ (j == k) = true := by simpa using he
        rw [if_neg hne, if_neg hne, List.append_nil,
          ih hjs ((List.mem_cons.mp h).resolve_left (Ne.symm he))]

/-- One more value joins the group of its key. -/
theorem addTo_grouped (entries : List (κ × α)) (k : κ) (value : α) :
    addTo k value (grouped entries) = grouped (entries ++ [(k, value)]) := by
  have hvalues (j : κ) : ((entries ++ [(k, value)]).filter fun e => e.1 == j).map (·.2) =
      ((entries.filter fun e => e.1 == j).map (·.2)) ++ if j == k then [value] else [] := by
    rw [List.filter_append, List.map_append]
    by_cases hj : j = k
    · simp [hj]
    · simp [hj, Ne.symm hj]
  have hkeys : (entries ++ [(k, value)]).map (·.1) = entries.map (·.1) ++ [k] := by simp
  simp only [grouped, hvalues, hkeys]
  by_cases hk : k ∈ entries.map (·.1)
  · rw [firsts_concat_of_mem hk, addTo_map_of_mem (nodup_firsts _) (mem_firsts.mpr hk)]
  · have hold : (firsts (entries.map (·.1))).map (fun j =>
        (j, ((entries.filter fun e => e.1 == j).map (·.2)) ++ if j == k then [value] else [])) =
          (firsts (entries.map (·.1))).map fun j =>
            (j, (entries.filter fun e => e.1 == j).map (·.2)) := by
      refine List.map_congr_left fun j hj => ?_
      have hne : ¬ (j == k) = true := by
        rw [beq_iff_eq]
        rintro rfl
        exact hk (mem_firsts.mp hj)
      rw [if_neg hne, List.append_nil]
    have hnew : (entries.filter fun e => e.1 == k).map (·.2) = [] := by
      rw [List.map_eq_nil_iff, List.filter_eq_nil_iff]
      intro e he
      rw [beq_iff_eq]
      rintro rfl
      exact hk (List.mem_map_of_mem he)
    rw [addTo_map_of_notMem (mt mem_firsts.mp hk), firsts_concat_of_notMem hk, List.map_append,
      List.map_singleton, hold, hnew, List.nil_append, if_pos (beq_self_eq_true k)]

/-- Groups that are collected one value at a time are the groups of all values. -/
theorem foldl_addTo_grouped (entries further : List (κ × α)) :
    further.foldl (fun groups e => addTo e.1 e.2 groups) (grouped entries) =
      grouped (entries ++ further) := by
  induction further generalizing entries with
  | nil => rw [List.append_nil, List.foldl_nil]
  | cons e further ih =>
      rw [List.foldl_cons, addTo_grouped, ih, List.append_assoc, List.singleton_append]

omit [LawfulBEq κ] in
theorem sum_length_addTo (k : κ) (value : α) (groups : List (κ × List α)) :
    ((addTo k value groups).map (·.2.length)).sum = (groups.map (·.2.length)).sum + 1 := by
  induction groups with
  | nil => rfl
  | cons g gs ih =>
      rw [addTo]
      split
      · simp only [List.map_cons, List.sum_cons, List.length_append, List.length_singleton]
        omega
      · simp only [List.map_cons, List.sum_cons, ih]
        omega

/-- Every value is in one group, and in one only. -/
theorem sum_length_grouped (entries : List (κ × α)) :
    ((grouped entries).map (·.2.length)).sum = entries.length := by
  induction entries using List.reverseRecOn with
  | nil => rfl
  | append_singleton entries e ih =>
      rw [← addTo_grouped, sum_length_addTo, ih, List.length_append, List.length_singleton]

/-- No group holds two values exactly if no key occurs twice. -/
theorem grouped_filter_eq_nil_iff (es : List (κ × α)) :
    ((grouped es).filter fun g => 1 < g.2.length) = [] ↔ (es.map (·.1)).Nodup := by
  have hcount (k : κ) : (es.filter fun e => e.1 == k).length = (es.map (·.1)).count k := by
    rw [List.count, List.countP_map, List.countP_eq_length_filter]
    rfl
  simp only [grouped, List.filter_eq_nil_iff, List.mem_map, mem_firsts,
    List.nodup_iff_count_le_one, decide_eq_true_eq, Nat.not_lt]
  constructor
  · intro h k
    by_cases hk : k ∈ es.map (·.1)
    · simpa [hcount] using h _ ⟨k, List.mem_map.mp hk, rfl⟩
    · simp [List.count_eq_zero.mpr hk]
  · rintro h g ⟨k, -, rfl⟩
    simpa [hcount] using h k

end TableSchema
