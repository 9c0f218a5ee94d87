import Mathlib.Data.List.DropRight
import TableSchema.Text.Blank
import TableSchema.Text.Case

/-!
# Blanks do not count

The words of a text are the same with any blanks at its ends, so trimming is of no account to them.
A collapsed text has its words with one space wherever blanks stood between characters that are no
blanks. A text of ASCII characters and blanks goes into lower case character by character.
-/

namespace TableSchema.Text

variable {p : Char → Bool} {cs ds gap word : List Char} {c d : Char}

section Runs

/-- A text without separators is one run. -/
theorem runs_eq_singleton (hne : cs ≠ []) (h : ∀ c ∈ cs, p c = false) : runs p cs = [cs] := by
  induction cs with
  | nil => exact absurd rfl hne
  | cons c cs ih =>
      obtain ⟨hc, hcs⟩ := List.forall_mem_cons.mp h
      cases cs with
      | nil => simp [runs, hc]
      | cons d cs =>
          have hd : p d = false := hcs d List.mem_cons_self
          simp [runs, hc, hd, ih (List.cons_ne_nil d cs) hcs]

theorem runs_append_left (h : ∀ c ∈ gap, p c = true) (cs : List Char) :
    runs p (gap ++ cs) = runs p cs := by
  induction gap with
  | nil => rfl
  | cons c gap ih =>
      obtain ⟨hc, hgap⟩ := List.forall_mem_cons.mp h
      rw [List.cons_append, runs_cons_sep hc, ih hgap]

theorem runs_concat (hc : p c = true) (cs : List Char) : runs p (cs ++ [c]) = runs p cs := by
  fun_induction runs p cs with
  | case1 => simp [runs, hc]
  | case2 d hd => simp [runs, hc, hd]
  | case3 d hd => simp [runs, hc, hd]
  | case4 d e cs hd ih =>
      rw [List.cons_append, runs_cons_sep hd, ih]
  | case5 d e cs hd he ih =>
      rw [List.cons_append] at ih
      simp [runs, hd, he, ih]
  | case6 d e cs hd he hr ih =>
      rw [List.cons_append] at ih
      simp [runs, hd, he, ih, hr]
  | case7 d e cs hd he w ws hr ih =>
      rw [List.cons_append] at ih
      simp [runs, hd, he, ih, hr]

theorem runs_append_right (h : ∀ c ∈ gap, p c = true) (cs : List Char) :
    runs p (cs ++ gap) = runs p cs := by
  induction gap generalizing cs with
  | nil => rw [List.append_nil]
  | cons c gap ih =>
      obtain ⟨hc, hgap⟩ := List.forall_mem_cons.mp h
      rw [List.append_cons, ih hgap, runs_concat hc]

/-- Runs are mapped one by one if the map makes and removes no separators. -/
theorem runs_map {f : Char → Char} (h : ∀ c, p (f c) = p c) (cs : List Char) :
    runs p (cs.map f) = (runs p cs).map (List.map f) := by
  fun_induction runs p cs with
  | case1 => rfl
  | case2 c hc => simp [runs, h, hc]
  | case3 c hc => simp [runs, h, hc]
  | case4 c d cs hc ih =>
      rw [List.map_cons, runs_cons_sep ((h c).trans hc), ih]
  | case5 c d cs hc hd ih =>
      rw [List.map_cons] at ih
      simp [runs, h, hc, hd, ih]
  | case6 c d cs hc hd hr ih =>
      rw [List.map_cons] at ih
      simp [runs, h, hc, hd, ih, hr]
  | case7 c d cs hc hd w ws hr ih =>
      rw [List.map_cons] at ih
      simp [runs, h, hc, hd, ih, hr]

end Runs

section Trim

/-- What is trimmed off at either end. -/
theorem exists_eq_append_trimBy (p : Char → Bool) (cs : List Char) :
    ∃ front back, cs = front ++ (trimBy p cs ++ back) ∧ (∀ c ∈ front, p c = true) ∧
      ∀ c ∈ back, p c = true := by
  refine ⟨cs.takeWhile p, (cs.dropWhile p).rtakeWhile p, ?_, fun _ => List.mem_takeWhile_imp,
    fun _ => List.mem_rtakeWhile_imp⟩
  have htrim : trimBy p cs = (cs.dropWhile p).rdropWhile p := rfl
  rw [htrim, List.rdropWhile_append_rtakeWhile, List.takeWhile_append_dropWhile]

theorem runs_trimBy (p : Char → Bool) (cs : List Char) : runs p (trimBy p cs) = runs p cs := by
  obtain ⟨front, back, hcs, hfront, hback⟩ := exists_eq_append_trimBy p cs
  calc
    runs p (trimBy p cs) = runs p (front ++ (trimBy p cs ++ back)) := by
      rw [runs_append_left hfront, runs_append_right hback]
    _ = runs p cs := by rw [← hcs]

/-- A text that begins and ends with other characters is trimmed at its end only of what is put
there. -/
theorem trimBy_append (hhead : ∀ c ∈ word.head?, p c = false)
    (hlast : ∀ c ∈ word.getLast?, p c = false) (hgap : ∀ c ∈ gap, p c = true) (hne : word ≠ []) :
    trimBy p (word ++ gap) = word := by
  obtain ⟨c, cs, rfl⟩ := List.exists_cons_of_ne_nil hne
  have hc : ¬ p c = true := by simp [hhead c rfl]
  have hback : (c :: cs).rdropWhile p = c :: cs := by
    rw [List.rdropWhile_eq_self_iff]
    intro h
    simp [hlast _ (List.getLast?_eq_some_getLast h)]
  have htrim : trimBy p (c :: cs ++ gap) = ((c :: cs ++ gap).dropWhile p).rdropWhile p := rfl
  rw [htrim, List.cons_append, List.dropWhile_cons_of_neg hc, ← List.cons_append,
    List.rdropWhile, List.reverse_append,
    List.dropWhile_append_of_pos fun d hd => hgap d (List.mem_reverse.mp hd)]
  exact hback

end Trim

section Collapse

/-- The space that is left of a gap between characters. -/
def collapsedGap (gap : List Char) : List Char :=
  if gap = [] then [] else [' ']

theorem collapse_append_left (h : ∀ c ∈ gap, isBlank c = true) (cs : List Char) :
    collapse (gap ++ cs) = collapse cs := by
  rw [collapse, words, runs_append_left h, ← words, ← collapse]

theorem collapse_append_right (h : ∀ c ∈ gap, isBlank c = true) (cs : List Char) :
    collapse (cs ++ gap) = collapse cs := by
  rw [collapse, words, runs_append_right h, ← words, ← collapse]

theorem words_ne_nil (hc : isBlank c = false) (cs : List Char) : words (c :: cs) ≠ [] := by
  intro h
  have hflatten : (words (c :: cs)).flatten = (c :: cs).filter fun d => !isBlank d :=
    runs_flatten isBlank (c :: cs)
  rw [h, List.filter_cons_of_pos (by simp [hc])] at hflatten
  cases hflatten

theorem collapse_cons_cons (hc : isBlank c = false) (hd : isBlank d = false) (cs : List Char) :
    collapse (c :: d :: cs) = c :: collapse (d :: cs) := by
  obtain ⟨w, ws, hwords⟩ := List.exists_cons_of_ne_nil (words_ne_nil hd cs)
  have hrun : words (c :: d :: cs) = (c :: w) :: ws := by
    rw [words] at hwords
    simp [words, runs, hc, hd, hwords]
  rw [collapse, collapse, hrun, hwords]
  cases ws with
  | nil => simp
  | cons v vs => simp [List.intercalate_cons_cons]

theorem collapse_cons_gap (hc : isBlank c = false) (hgap : ∀ b ∈ gap, isBlank b = true)
    (hne : gap ≠ []) (hd : isBlank d = false) (cs : List Char) :
    collapse (c :: (gap ++ d :: cs)) = c :: ' ' :: collapse (d :: cs) := by
  obtain ⟨w, ws, hwords⟩ := List.exists_cons_of_ne_nil (words_ne_nil hd cs)
  have hrun : words (c :: (gap ++ d :: cs)) = [c] :: w :: ws := by
    have hrest : runs isBlank (gap ++ d :: cs) = w :: ws :=
      (runs_append_left hgap (d :: cs)).trans hwords
    obtain ⟨b, bs, rfl⟩ := List.exists_cons_of_ne_nil hne
    have hb : isBlank b = true := hgap b List.mem_cons_self
    rw [List.cons_append] at hrest ⊢
    simp [words, runs, hc, hb, hrest]
  rw [collapse, collapse, hrun, hwords, List.intercalate_cons_cons]
  rfl

theorem collapse_word (hne : word ≠ []) (h : ∀ c ∈ word, isBlank c = false) :
    collapse word = word := by
  rw [collapse, words, runs_eq_singleton hne h]
  simp [List.intercalate]

/-- A word before a gap, which may be empty, and further characters. -/
theorem collapse_word_append (hne : word ≠ []) (hword : ∀ c ∈ word, isBlank c = false)
    (hgap : ∀ b ∈ gap, isBlank b = true) (hd : isBlank d = false) (cs : List Char) :
    collapse (word ++ (gap ++ d :: cs)) = word ++ (collapsedGap gap ++ collapse (d :: cs)) := by
  induction word with
  | nil => exact absurd rfl hne
  | cons c word ih =>
      obtain ⟨hc, hword⟩ := List.forall_mem_cons.mp hword
      cases word with
      | nil =>
          by_cases hempty : gap = []
          · subst hempty
            exact collapse_cons_cons hc hd cs
          · rw [collapsedGap, if_neg hempty]
            exact collapse_cons_gap hc hgap hempty hd cs
      | cons e word =>
          have he : isBlank e = false := hword e List.mem_cons_self
          have hrest := ih (List.cons_ne_nil e word) hword
          rw [List.cons_append] at hrest ⊢
          rw [List.cons_append, collapse_cons_cons hc he, hrest, List.cons_append,
            List.cons_append, List.cons_append]

end Collapse

theorem head?_collapse_ne_space (cs : List Char) : (collapse cs).head? ≠ some ' ' := by
  rw [collapse]
  cases hwords : words cs with
  | nil => simp
  | cons w ws =>
      have hmem : w ∈ words cs := hwords ▸ List.mem_cons_self
      obtain ⟨c, rest, rfl⟩ := List.exists_cons_of_ne_nil (ne_nil_of_mem_runs hmem)
      have hc : isBlank c = false := sep_eq_false_of_mem_runs hmem List.mem_cons_self
      have hhead : ([' '].intercalate ((c :: rest) :: ws)).head? = some c := by
        cases ws with
        | nil => simp
        | cons v vs => simp [List.intercalate_cons_cons]
      rw [hhead]
      rintro h
      obtain rfl : c = ' ' := Option.some.inj h
      exact absurd hc (by decide)

/-- Where every character has its lower case by itself, the text has. -/
theorem lowerCase_eq_map (h : ∀ c ∈ cs, c ≠ 'Σ' ∧ Case.lower c = [c.toLower]) :
    lowerCase cs = cs.map Char.toLower := by
  have hfrom (before : List Char) : Case.lowerFrom before cs = cs.map Char.toLower := by
    induction cs generalizing before with
    | nil => rfl
    | cons c cs ih =>
        obtain ⟨⟨hsigma, hc⟩, hcs⟩ := List.forall_mem_cons.mp h
        rw [Case.lowerFrom, if_neg hsigma, hc, ih hcs]
        rfl
  exact hfrom []

end TableSchema.Text
