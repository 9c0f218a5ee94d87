import TableSchema.Proofs.Text.Unambiguous
import TableSchema.Text.Naming

/-!
# When two names have one camel-case form

A camel-case form keeps the letters and digits of a name but not what stood between its words. Two
names share a form if they are equal, or if their words run together to the same characters. Names
in snake case, whose words begin with a letter and have no capitals, can be read back: every capital
of the form begins a word.
-/

namespace TableSchema.Text

/-- The words one after the other, each but the first with a capital. -/
def joined : List (List Char) → List Char
  | [] => []
  | w :: ws => w ++ ws.flatMap capitalized

theorem isLower_iff {c : Char} : c.isLower = true ↔ 97 ≤ c.toNat ∧ c.toNat ≤ 122 := by
  have hdef : c.isLower = (decide ('a'.val ≤ c.val) && decide (c.val ≤ 'z'.val)) := rfl
  simp [hdef, UInt32.le_iff_toNat_le]

theorem isUpper_iff {c : Char} : c.isUpper = true ↔ 65 ≤ c.toNat ∧ c.toNat ≤ 90 := by
  have hdef : c.isUpper = decide ('A'.val ≤ c.val ∧ c.val ≤ 'Z'.val) := rfl
  simp [hdef, UInt32.le_iff_toNat_le]

theorem toNat_toUpper {c : Char} (h : c.isLower = true) : c.toUpper.toNat = c.toNat - 32 := by
  obtain ⟨hle, hge⟩ := isLower_iff.mp h
  have hrange : 'a'.val ≤ c.val ∧ c.val ≤ 'z'.val := by
    simpa [UInt32.le_iff_toNat_le] using And.intro hle hge
  have hshift : ('A'.val - 'a'.val).toNat = 2 ^ 32 - 32 := rfl
  have hval : c.toUpper.toNat = (c.val + ('A'.val - 'a'.val)).toNat := by
    delta Char.toUpper
    rw [dif_pos hrange]
    rfl
  rw [hval, UInt32.toNat_add, hshift]
  simp only [Char.toNat] at hle hge ⊢
  omega

/-- The first characters of a name are no underscore unless one protects a digit. -/
theorem notDigitFirst_inj {as bs : List Char} (has : ∀ c ∈ as.head?, c ≠ '_')
    (hbs : ∀ c ∈ bs.head?, c ≠ '_') (h : notDigitFirst as = notDigitFirst bs) : as = bs := by
  cases as with
  | nil =>
      cases bs with
      | nil => rfl
      | cons b bs => cases hb : b.isDigit <;> simp [notDigitFirst, hb] at h
  | cons a as =>
      have ha : a ≠ '_' := has a rfl
      cases bs with
      | nil => cases ha : a.isDigit <;> simp [notDigitFirst, ha] at h
      | cons b bs =>
          have hb : b ≠ '_' := hbs b rfl
          cases hda : a.isDigit <;> cases hdb : b.isDigit
          · simpa [notDigitFirst, hda, hdb] using h
          · simp [notDigitFirst, hda, hdb, ha] at h
          · simp [notDigitFirst, hda, hdb, hb.symm] at h
          · simpa [notDigitFirst, hda, hdb] using h

theorem mem_notDigitFirst {c : Char} {cs : List Char} (h : c ∈ cs) : c ∈ notDigitFirst cs := by
  cases cs with
  | nil => simp at h
  | cons d ds => cases hd : d.isDigit <;> simp_all [notDigitFirst]

section Words

variable {cs w : List Char} {ws : List (List Char)}

theorem isAlphanumeric_of_mem_nameWords (hw : w ∈ nameWords cs) {c : Char} (hc : c ∈ w) :
    isAlphanumeric c = true := by
  simpa using sep_eq_false_of_mem_runs hw hc

theorem not_isAlphanumeric_of_nameWords_eq_nil (h : nameWords cs = []) {c : Char} (hc : c ∈ cs) :
    isAlphanumeric c = false := by
  have hnone : cs.filter (fun c => !(!isAlphanumeric c)) = [] := by
    rw [← runs_flatten, ← nameWords, h, List.flatten_nil]
  simpa using List.filter_eq_nil_iff.mp hnone c hc

theorem camelChars_of_nil (h : nameWords cs = []) : camelChars cs = cs := by
  rw [camelChars, h]

theorem camelChars_of_ne_nil (h : nameWords cs ≠ []) :
    camelChars cs = notDigitFirst (joined (nameWords cs)) := by
  cases hw : nameWords cs with
  | nil => exact absurd hw h
  | cons w ws => rw [camelChars, hw, joined, List.flatMap_def]

/-- In Pascal case the first word has a capital too. -/
theorem pascalChars_of_ne_nil (h : nameWords cs ≠ []) :
    pascalChars cs = notDigitFirst (capitalized (joined (nameWords cs))) := by
  obtain ⟨word, words, hwords⟩ := List.exists_cons_of_ne_nil h
  have hword : word ≠ [] := ne_nil_of_mem_runs (hwords ▸ List.mem_cons_self)
  obtain ⟨c, rest, rfl⟩ := List.exists_cons_of_ne_nil hword
  rw [pascalChars, hwords]
  simp [joined, capitalized, List.flatMap_def]

/-- A form of words begins with a letter or a digit. -/
theorem exists_head_joined (h : nameWords cs ≠ []) :
    ∃ c rest, joined (nameWords cs) = c :: rest ∧ isAlphanumeric c = true := by
  cases hw : nameWords cs with
  | nil => exact absurd hw h
  | cons w ws =>
      have hmem : w ∈ nameWords cs := hw ▸ List.mem_cons_self
      obtain ⟨c, rest, rfl⟩ := List.exists_cons_of_ne_nil (ne_nil_of_mem_runs hmem)
      exact ⟨c, rest ++ ws.flatMap capitalized, rfl,
        isAlphanumeric_of_mem_nameWords hmem List.mem_cons_self⟩

theorem head_joined_ne (h : nameWords cs ≠ []) : ∀ c ∈ (joined (nameWords cs)).head?, c ≠ '_' := by
  obtain ⟨d, rest, hd, halnum⟩ := exists_head_joined h
  rw [hd]
  rintro c hc rfl
  obtain rfl : d = '_' := by simpa using hc
  exact absurd halnum (by decide)

/-- A name without words does not have the form of a name with words. -/
theorem camelChars_ne_of_nil {ds : List Char} (h : nameWords cs = []) (h' : nameWords ds ≠ []) :
    camelChars cs ≠ camelChars ds := by
  intro heq
  obtain ⟨c, rest, hc, halnum⟩ := exists_head_joined h'
  have hmem : c ∈ camelChars ds := by
    rw [camelChars_of_ne_nil h', hc]
    exact mem_notDigitFirst List.mem_cons_self
  rw [← heq, camelChars_of_nil h] at hmem
  rw [not_isAlphanumeric_of_nameWords_eq_nil h hmem] at halnum
  cases halnum

/-- Names have one camel-case form if they are equal or their words run together. -/
theorem camelChars_eq_iff {as bs : List Char} :
    camelChars as = camelChars bs ↔
      as = bs ∨ nameWords as ≠ [] ∧ nameWords bs ≠ [] ∧
        joined (nameWords as) = joined (nameWords bs) := by
  by_cases ha : nameWords as = []
  · by_cases hb : nameWords bs = []
    · simp [camelChars_of_nil ha, camelChars_of_nil hb, ha]
    · have hne : as ≠ bs := by
        rintro rfl
        exact hb ha
      simp [camelChars_ne_of_nil ha hb, hne, ha]
  · constructor
    · intro h
      have hb : nameWords bs ≠ [] := fun hb => camelChars_ne_of_nil hb ha h.symm
      rw [camelChars_of_ne_nil ha, camelChars_of_ne_nil hb] at h
      exact Or.inr ⟨ha, hb, notDigitFirst_inj (head_joined_ne ha) (head_joined_ne hb) h⟩
    · rintro (rfl | ⟨-, hb, h⟩)
      · rfl
      · rw [camelChars_of_ne_nil ha, camelChars_of_ne_nil hb, h]

end Words

/-- The name is made of words without capitals that have single underscores between them, and
every word but the first begins with a letter. -/
structure IsSnakeCase (cs : List Char) : Prop where
  spelled : ['_'].intercalate (nameWords cs) = cs
  no_capitals : ∀ w ∈ nameWords cs, ∀ c ∈ w, c.isUpper = false
  letters_first : ∀ w ∈ (nameWords cs).tail, ∃ c ∈ w.head?, c.isLower = true

theorem isSnakeCase_iff (cs : List Char) :
    IsSnakeCase cs ↔ ['_'].intercalate (nameWords cs) = cs ∧
      (∀ w ∈ nameWords cs, w.any Char.isUpper = false) ∧
      ∀ w ∈ (nameWords cs).tail, w.head?.any Char.isLower = true := by
  constructor
  · rintro ⟨hspelled, hcapitals, hletters⟩
    exact ⟨hspelled, fun w hw => List.any_eq_false.mpr fun c hc => by simp [hcapitals w hw c hc],
      fun w hw => (Option.any_eq_true _ _).mpr (hletters w hw)⟩
  · rintro ⟨hspelled, hcapitals, hletters⟩
    refine ⟨hspelled, fun w hw c hc => ?_, fun w hw => (Option.any_eq_true _ _).mp (hletters w hw)⟩
    simpa using List.any_eq_false.mp (hcapitals w hw) c hc

instance (cs : List Char) : Decidable (IsSnakeCase cs) :=
  decidable_of_iff _ (isSnakeCase_iff cs).symm

/-- A word without capitals ends before a capital. -/
theorem unambiguous_without_capitals :
    Unambiguous (fun w => ∀ c ∈ w, c.isUpper = false) id id
      fun x => ∀ c ∈ x.head?, c.isUpper = true := by
  have hrun : Unambiguous (fun w => ∀ c ∈ w, c.isUpper = false) id id
      fun x => ∀ c ∈ x.head?, (!c.isUpper) = false :=
    unambiguous_of_run (fun c => !c.isUpper) (fun w hw c hc => by simpa using hw c hc)
      fun _ _ _ _ h => h
  intro v w x y hv hw hx hy heq
  exact hrun hv hw (by simpa using hx) (by simpa using hy) heq

/-- A word without capitals that begins with a letter. -/
def IsInnerWord (w : List Char) : Prop :=
  (∀ c ∈ w, c.isUpper = false) ∧ ∃ c ∈ w.head?, c.isLower = true

theorem exists_cons_of_isInnerWord {w : List Char} (h : IsInnerWord w) :
    ∃ c cs, w = c :: cs ∧ c.isLower = true ∧ ∀ d ∈ cs, d.isUpper = false := by
  obtain ⟨hw, c, hc, hlower⟩ := h
  obtain ⟨cs, rfl⟩ := List.head?_eq_some_iff.mp hc
  exact ⟨c, cs, rfl, hlower, (List.forall_mem_cons.mp hw).2⟩

theorem isUpper_toUpper {c : Char} (h : c.isLower = true) : c.toUpper.isUpper = true := by
  have hrange := isLower_iff.mp h
  rw [isUpper_iff, toNat_toUpper h]
  omega

/-- A word with a capital in place of its first letter ends before the next capital. -/
theorem unambiguous_capitalized :
    Unambiguous IsInnerWord capitalized id fun x => ∀ c ∈ x.head?, c.isUpper = true := by
  intro v w x y hv hw hx hy heq
  obtain ⟨c, cs, rfl, hc, hcs⟩ := exists_cons_of_isInnerWord hv
  obtain ⟨d, ds, rfl, hd, hds⟩ := exists_cons_of_isInnerWord hw
  obtain ⟨hfirst, heq⟩ := List.cons_eq_cons.mp heq
  have hcd : c = d := by
    have h := congrArg Char.toNat hfirst
    rw [toNat_toUpper hc, toNat_toUpper hd] at h
    have hc' := isLower_iff.mp hc
    have hd' := isLower_iff.mp hd
    exact Char.toNat_inj.mp (by omega)
  obtain ⟨htail, hxy⟩ := unambiguous_without_capitals hcs hds hx hy heq
  exact ⟨congrArg₂ List.cons hcd htail, hxy⟩

theorem capitalized_append_head {w : List Char} (h : IsInnerWord w) (z : List Char) :
    ∀ c ∈ (capitalized w ++ z).head?, c.isUpper = true := by
  obtain ⟨c, cs, rfl, hc, -⟩ := exists_cons_of_isInnerWord h
  intro d hd
  obtain rfl : c.toUpper = d := Option.some.inj hd
  exact isUpper_toUpper hc

/-- Inner words that run together are told apart by their capitals. -/
theorem unambiguous_flatMap_capitalized :
    Unambiguous (∀ w ∈ ·, IsInnerWord w) (List.flatMap capitalized) (List.map id) (· = []) := by
  refine unambiguous_capitalized.flatMap (fun w z hw => capitalized_append_head hw z) ?_ ?_
  · rintro x rfl c hc
    cases hc
  · rintro w x z hw rfl h
    obtain ⟨c, cs, rfl, -, -⟩ := exists_cons_of_isInnerWord hw
    cases h

theorem flatMap_capitalized_head {ws : List (List Char)} (h : ∀ w ∈ ws, IsInnerWord w) :
    ∀ c ∈ (ws.flatMap capitalized).head?, c.isUpper = true := by
  cases ws with
  | nil => simp
  | cons w ws =>
      rw [List.flatMap_cons]
      exact capitalized_append_head (h w List.mem_cons_self) _

theorem IsSnakeCase.isInnerWord {cs w : List Char} {ws : List (List Char)} (h : IsSnakeCase cs)
    (hw : nameWords cs = w :: ws) : (∀ c ∈ w, c.isUpper = false) ∧ ∀ v ∈ ws, IsInnerWord v := by
  have hcapitals := h.no_capitals
  have hletters := h.letters_first
  rw [hw] at hcapitals hletters
  exact ⟨hcapitals w List.mem_cons_self,
    fun v hv => ⟨hcapitals v (List.mem_cons_of_mem w hv), hletters v hv⟩⟩

/-- In snake case names that run together are one name. -/
theorem IsSnakeCase.eq_of_joined_eq {as bs : List Char} (has : IsSnakeCase as)
    (hbs : IsSnakeCase bs) (hne : nameWords as ≠ []) (hne' : nameWords bs ≠ [])
    (h : joined (nameWords as) = joined (nameWords bs)) : as = bs := by
  obtain ⟨v, vs, hv⟩ := List.exists_cons_of_ne_nil hne
  obtain ⟨w, ws, hw⟩ := List.exists_cons_of_ne_nil hne'
  obtain ⟨hfirst, hinner⟩ := has.isInnerWord hv
  obtain ⟨hfirst', hinner'⟩ := hbs.isInnerWord hw
  rw [hv, hw] at h
  obtain ⟨hvw, hrest⟩ := unambiguous_without_capitals hfirst hfirst'
    (flatMap_capitalized_head hinner) (flatMap_capitalized_head hinner') h
  obtain ⟨hvws, -⟩ := unambiguous_flatMap_capitalized hinner hinner' rfl rfl
    (congrArg (· ++ []) hrest)
  rw [List.map_id, List.map_id] at hvws
  rw [← has.spelled, ← hbs.spelled, hv, hw, show v = w from hvw, hvws]

/-- Two names have words that run together to the same characters. -/
def RunTogether (m n : String) : Prop :=
  nameWords m.toList ≠ [] ∧ nameWords n.toList ≠ [] ∧
    joined (nameWords m.toList) = joined (nameWords n.toList)

instance (m n : String) : Decidable (RunTogether m n) :=
  inferInstanceAs (Decidable (_ ∧ _))

theorem camelCase_eq_iff {m n : String} : camelCase m = camelCase n ↔ m = n ∨ RunTogether m n := by
  rw [camelCase, camelCase, String.ofList_inj, camelChars_eq_iff, String.toList_inj]
  rfl

/-- Names in snake case have camel-case forms of their own. -/
theorem eq_of_camelCase_eq {m n : String} (hm : IsSnakeCase m.toList) (hn : IsSnakeCase n.toList)
    (h : camelCase m = camelCase n) : m = n := by
  rcases camelCase_eq_iff.mp h with rfl | ⟨hne, hne', hjoined⟩
  · rfl
  · exact String.toList_inj.mp (hm.eq_of_joined_eq hn hne hne' hjoined)

end TableSchema.Text
