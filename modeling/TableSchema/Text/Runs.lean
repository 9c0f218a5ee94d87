/-!
# Runs between separators

`runs sep cs` lists the maximal stretches of `cs` that hold no separator.  No run is empty, and the
runs together are `cs` without its separators.
-/

namespace TableSchema.Text

/-- The maximal stretches of characters that are no separators, from left to right. -/
def runs (sep : Char → Bool) : List Char → List (List Char)
  | [] => []
  | [c] => if sep c then [] else [[c]]
  | c :: d :: cs =>
    if sep c then runs sep (d :: cs)
    else if sep d then [c] :: runs sep (d :: cs)
    else match runs sep (d :: cs) with
      | [] => [[c]]
      | w :: ws => (c :: w) :: ws

/-- A separator in front adds nothing. -/
theorem runs_cons_sep {sep : Char → Bool} {c : Char} (h : sep c = true) (cs : List Char) :
    runs sep (c :: cs) = runs sep cs := by
  cases cs <;> simp [runs, h]

theorem runs_flatten (sep : Char → Bool) (cs : List Char) :
    (runs sep cs).flatten = cs.filter (fun c => !sep c) := by
  fun_induction runs sep cs with
  | case1 => rfl
  | case2 c h => simp [h]
  | case3 c h => simp [h]
  | case4 c d cs h ih => simp [ih, h]
  | case5 c d cs h hd ih => simp [ih, h, hd]
  | case6 c d cs h hd hr ih =>
    simp [hr, hd] at ih
  | case7 c d cs h hd w ws hr ih =>
    rw [hr] at ih
    simp only [List.flatten_cons, List.cons_append] at ih ⊢
    rw [ih]
    simp [h]

/-- No run is empty. -/
theorem ne_nil_of_mem_runs {sep : Char → Bool} {cs w : List Char} (h : w ∈ runs sep cs) :
    w ≠ [] := by
  fun_induction runs sep cs with
  | case1 => simp at h
  | case2 => simp at h
  | case3 => simp_all
  | case4 _ _ _ _ ih => exact ih h
  | case5 _ _ _ _ _ ih =>
    rcases List.mem_cons.1 h with rfl | h
    · simp
    · exact ih h
  | case6 => simp_all
  | case7 _ _ _ _ _ v ws hr ih =>
    rcases List.mem_cons.1 h with rfl | h
    · simp
    · exact ih (by rw [hr]; exact List.mem_cons_of_mem _ h)

/-- No run holds a separator. -/
theorem sep_eq_false_of_mem_runs {sep : Char → Bool} {cs w : List Char} (h : w ∈ runs sep cs)
    {c : Char} (hc : c ∈ w) : sep c = false := by
  have hmem : c ∈ (runs sep cs).flatten := List.mem_flatten.mpr ⟨w, h, hc⟩
  rw [runs_flatten] at hmem
  simpa using (List.mem_filter.mp hmem).2

end TableSchema.Text
