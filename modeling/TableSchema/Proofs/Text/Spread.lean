import Mathlib
import TableSchema.Proofs.Text.Blank
import TableSchema.Proofs.Text.Naming

/-!
# Words in any letter case with blanks between them

Words of plain characters may be written in other letter cases of ASCII and with blanks of any kind
and number between them. In lower case and with its blanks collapsed, each such text is the words in
lower case with single spaces between them.
-/

namespace TableSchema.Text

/-- Nothing but blanks. -/
def AreBlanks (gap : List Char) : Prop :=
  ∀ c ∈ gap, isBlank c = true

instance (gap : List Char) : Decidable (AreBlanks gap) :=
  List.decidableBAll _ gap

/-- The words in some letter case of ASCII, with blanks between neighbours. -/
inductive Spread : List (List Char) → List Char → Prop
  | single {word spelled : List Char} :
      lowerAscii spelled = lowerAscii word → Spread [word] spelled
  | cons {word spelled gap cs : List Char} {words : List (List Char)} :
      lowerAscii spelled = lowerAscii word → gap ≠ [] → AreBlanks gap → Spread words cs →
        Spread (word :: words) (spelled ++ (gap ++ cs))

section Characters

variable {c : Char}

theorem isBlank_of_isAlpha (h : c.isAlpha = true) : isBlank c = false := by
  have hrange : 65 ≤ c.toNat ∧ c.toNat ≤ 90 ∨ 97 ≤ c.toNat ∧ c.toNat ≤ 122 := by
    simpa [Char.isAlpha, isUpper_iff, isLower_iff] using h
  simp [isBlank, inRanges, blankRanges]
  omega

/-- Letter case makes no blanks. -/
theorem isBlank_toLower (c : Char) : isBlank c.toLower = isBlank c := by
  cases halpha : c.isAlpha with
  | true =>
      rw [isBlank_of_isAlpha halpha, isBlank_of_isAlpha]
      rw [Char.isAlpha_toLower_eq_isAlpha, halpha]
  | false =>
      have hupper : ¬ c.isUpper = true := fun h => by simp [Char.isAlpha, h] at halpha
      rw [Char.toLower_eq_of_not_isUpper hupper]

/-- Letter case does not lead out of ASCII or into it. -/
theorem toNat_toLower_lt_iff : c.toLower.toNat < 128 ↔ c.toNat < 128 := by
  by_cases hupper : c.isUpper = true
  · have hrange := isUpper_iff.mp hupper
    have hlower : c.toLower.isLower = true := by
      simp [Char.isLower_toLower_eq_isAlpha, Char.isAlpha, hupper]
    have hrange' := isLower_iff.mp hlower
    omega
  · rw [Char.toLower_eq_of_not_isUpper hupper]

/-- A character of ASCII that is no blank. -/
def IsPlain (c : Char) : Prop :=
  c.toNat < 128 ∧ isBlank c = false

theorem isPlain_toLower_iff : IsPlain c.toLower ↔ IsPlain c := by
  rw [IsPlain, IsPlain, toNat_toLower_lt_iff, isBlank_toLower]

/-- A blank has no other case. -/
theorem lower_of_isBlank (h : isBlank c = true) :
    c ≠ 'Σ' ∧ Case.lower c = [c] ∧ c.toLower = c := by
  have hall : ∀ r ∈ blankRanges, r.2 < r.1 + 16 ∧ ∀ i < 16, r.1 + i ≤ r.2 →
      Char.ofNat (r.1 + i) ≠ 'Σ' ∧ Case.lower (Char.ofNat (r.1 + i)) = [Char.ofNat (r.1 + i)] ∧
        (Char.ofNat (r.1 + i)).toLower = Char.ofNat (r.1 + i) := by
    decide +kernel
  obtain ⟨r, hr, hle, hge⟩ := inRanges_iff.mp h
  obtain ⟨hwidth, hrange⟩ := hall r hr
  have hsum : r.1 + (c.toNat - r.1) = c.toNat := by omega
  have hc := hrange (c.toNat - r.1) (by omega) (by omega)
  rwa [hsum, Char.ofNat_toNat] at hc

end Characters

section Texts

variable {cs gap word spelled : List Char}

theorem lowerAscii_blanks (h : AreBlanks gap) : lowerAscii gap = gap :=
  (List.map_congr_left fun _ hc => (lower_of_isBlank (h _ hc)).2.2).trans (List.map_id gap)

theorem lowerAscii_ne_nil (h : cs ≠ []) : lowerAscii cs ≠ [] := by
  simpa [lowerAscii] using h

theorem forall_isPlain_lowerAscii_iff :
    (∀ c ∈ lowerAscii cs, IsPlain c) ↔ ∀ c ∈ cs, IsPlain c := by
  simp only [lowerAscii, List.forall_mem_map, isPlain_toLower_iff]

/-- A word keeps its length and its kind of characters in all spellings. -/
theorem isPlain_of_lowerAscii_eq (hword : word ≠ [] ∧ ∀ c ∈ word, IsPlain c)
    (h : lowerAscii spelled = lowerAscii word) : spelled ≠ [] ∧ ∀ c ∈ spelled, IsPlain c := by
  refine ⟨?_, ?_⟩
  · rintro rfl
    exact lowerAscii_ne_nil hword.1 h.symm
  · rw [← forall_isPlain_lowerAscii_iff, h, forall_isPlain_lowerAscii_iff]
    exact hword.2

theorem isBlank_of_mem_lowerAscii (h : ∀ c ∈ cs, IsPlain c) :
    ∀ c ∈ lowerAscii cs, isBlank c = false :=
  fun c hc => (forall_isPlain_lowerAscii_iff.mpr h c hc).2

end Texts

section Words

variable {ws : List (List Char)} {cs back : List Char}

/-- The words have characters, and only plain ones. -/
def ArePlain (ws : List (List Char)) : Prop :=
  ∀ w ∈ ws, w ≠ [] ∧ ∀ c ∈ w, IsPlain c

theorem arePlain_iff :
    ArePlain ws ↔
      (ws.all fun w => !w.isEmpty && w.all fun c => c.toNat < 128 && !isBlank c) = true := by
  simp [ArePlain, IsPlain]

theorem Spread.forall_mem (h : Spread ws cs) (hws : ArePlain ws) :
    ∀ c ∈ cs, c.toNat < 128 ∨ isBlank c = true := by
  induction h with
  | single hspelled =>
      have hplain := isPlain_of_lowerAscii_eq (hws _ List.mem_cons_self) hspelled
      exact fun c hc => Or.inl (hplain.2 c hc).1
  | cons hspelled _ hgap _ ih =>
      obtain ⟨hword, hws⟩ := List.forall_mem_cons.mp hws
      have hplain := isPlain_of_lowerAscii_eq hword hspelled
      rw [List.forall_mem_append, List.forall_mem_append]
      exact ⟨fun c hc => Or.inl (hplain.2 c hc).1, fun c hc => Or.inr (hgap c hc), ih hws⟩

/-- Words that are spread begin with the first word. -/
theorem Spread.exists_head (h : Spread ws cs) (hws : ArePlain ws) :
    ∃ d ds, cs = d :: ds ∧ isBlank d = false := by
  have hfirst {word spelled : List Char} (hword : word ≠ [] ∧ ∀ c ∈ word, IsPlain c)
      (hspelled : lowerAscii spelled = lowerAscii word) (rest : List Char) :
      ∃ d ds, spelled ++ rest = d :: ds ∧ isBlank d = false := by
    obtain ⟨hne, hplain⟩ := isPlain_of_lowerAscii_eq hword hspelled
    obtain ⟨d, ds, rfl⟩ := List.exists_cons_of_ne_nil hne
    exact ⟨d, ds ++ rest, rfl, (hplain d List.mem_cons_self).2⟩
  cases h with
  | single hspelled => simpa using hfirst (hws _ List.mem_cons_self) hspelled []
  | cons hspelled => exact hfirst (hws _ List.mem_cons_self) hspelled _

theorem Spread.ne_nil (h : Spread ws cs) : ws ≠ [] := by
  cases h <;> exact List.cons_ne_nil _ _

/-- Collapsed and in lower case, words that are spread are the words in lower case with single
spaces between them. -/
theorem Spread.collapse_eq (h : Spread ws cs) (hws : ArePlain ws) (hback : AreBlanks back) :
    collapse (lowerAscii (cs ++ back)) = [' '].intercalate (ws.map lowerAscii) := by
  rw [lowerAscii_append, lowerAscii_blanks hback]
  induction h with
  | @single word spelled hspelled =>
      obtain ⟨hne, hplain⟩ := hws word List.mem_cons_self
      rw [hspelled, collapse_append_right hback, collapse_word (lowerAscii_ne_nil hne)
        (isBlank_of_mem_lowerAscii hplain)]
      simp
  | @cons word spelled gap cs words hspelled hgap hblanks hspread ih =>
      obtain ⟨⟨hne, hplain⟩, hws⟩ := List.forall_mem_cons.mp hws
      obtain ⟨next, more, rfl⟩ := List.exists_cons_of_ne_nil hspread.ne_nil
      obtain ⟨d, ds, rfl, hd⟩ := hspread.exists_head hws
      have hrest := ih hws
      have hgap' : collapsedGap gap = [' '] := if_neg hgap
      rw [lowerAscii_cons, List.cons_append] at hrest
      rw [lowerAscii_append, lowerAscii_append, lowerAscii_blanks hblanks, hspelled,
        List.append_assoc, List.append_assoc, lowerAscii_cons, List.cons_append,
        collapse_word_append (lowerAscii_ne_nil hne) (isBlank_of_mem_lowerAscii hplain) hblanks
          (by rw [isBlank_toLower, hd]), hrest, hgap']
      rfl

end Words

end TableSchema.Text
