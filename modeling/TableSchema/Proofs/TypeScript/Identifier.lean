import TableSchema.Proofs.Text.Naming
import TableSchema.Table

/-!
# Identifiers

An identifier begins with a letter, an underscore or a dollar sign and goes on with these and
digits. Which characters outside ASCII count as letters is a parameter. Camel case and Pascal case
turn every name that has a letter or digit of ASCII into an identifier; a name without any stays as
it is, and so its form is an identifier only if the name is one.
-/

namespace TableSchema.TypeScript

open Text

/-- The characters outside ASCII that may begin an identifier, and those that may stand later. -/
structure WideLetters where
  first : Char → Bool
  later : Char → Bool

namespace WideLetters

/-- The character may begin an identifier. -/
def begins (w : WideLetters) (c : Char) : Bool :=
  if c.toNat < 128 then isTypeNameStart c else w.first c

/-- The character may stand in an identifier after its beginning. -/
def continues (w : WideLetters) (c : Char) : Bool :=
  if c.toNat < 128 then isTypeNameStart c || c.isDigit else w.later c

end WideLetters

/-- The characters are an identifier. -/
def IsIdentifier (w : WideLetters) (cs : List Char) : Prop :=
  ∃ c rest, cs = c :: rest ∧ w.begins c = true ∧ ∀ d ∈ rest, w.continues d = true

variable {w : WideLetters} {c : Char} {cs : List Char}

theorem isIdentifier_cons_iff :
    IsIdentifier w (c :: cs) ↔ w.begins c = true ∧ ∀ d ∈ cs, w.continues d = true := by
  constructor
  · rintro ⟨d, rest, h, hd, hrest⟩
    obtain ⟨rfl, rfl⟩ := List.cons_eq_cons.mp h
    exact ⟨hd, hrest⟩
  · intro h
    exact ⟨c, cs, rfl, h⟩

instance (w : WideLetters) : (cs : List Char) → Decidable (IsIdentifier w cs)
  | [] => .isFalse fun ⟨_, _, h, _⟩ => nomatch h
  | c :: cs =>
    have := List.decidableBAll (w.continues · = true) cs
    decidable_of_iff (w.begins c = true ∧ ∀ d ∈ cs, w.continues d = true)
      isIdentifier_cons_iff.symm

/-- The name has a letter or a digit of ASCII. -/
def HasWord (cs : List Char) : Prop :=
  ∃ c ∈ cs, isAlphanumeric c = true

instance (cs : List Char) : Decidable (HasWord cs) :=
  List.decidableBEx _ cs

theorem hasWord_iff : HasWord cs ↔ nameWords cs ≠ [] := by
  constructor
  · rintro ⟨c, hc, halnum⟩ hnil
    rw [not_isAlphanumeric_of_nameWords_eq_nil hnil hc] at halnum
    cases halnum
  · intro hne
    obtain ⟨word, words, hwords⟩ := List.exists_cons_of_ne_nil hne
    have hword : word ∈ nameWords cs := hwords ▸ List.mem_cons_self
    obtain ⟨c, hc⟩ := List.exists_mem_of_ne_nil word (ne_nil_of_mem_runs hword)
    have hmem : c ∈ (nameWords cs).flatten := List.mem_flatten.mpr ⟨word, hword, hc⟩
    rw [nameWords, runs_flatten] at hmem
    exact ⟨c, List.mem_of_mem_filter hmem, isAlphanumeric_of_mem_nameWords hword hc⟩

section Characters

theorem toNat_lt_of_isAlpha (h : c.isAlpha = true) : c.toNat < 128 := by
  rcases (Bool.or_eq_true _ _).mp h with hupper | hlower
  · have := isUpper_iff.mp hupper
    omega
  · have := isLower_iff.mp hlower
    omega

theorem toNat_lt_of_isDigit (h : c.isDigit = true) : c.toNat < 128 := by
  have hle : c.toNat ≤ '9'.toNat := by
    simpa [Char.isDigit, UInt32.le_iff_toNat_le] using ((Bool.and_eq_true _ _).mp h).2
  have hnine : '9'.toNat = 57 := rfl
  omega

theorem toNat_lt_of_isTypeNameStart (h : isTypeNameStart c = true) : c.toNat < 128 := by
  simp only [isTypeNameStart, Bool.or_eq_true, beq_iff_eq] at h
  obtain (halpha | rfl) | rfl := h
  · exact toNat_lt_of_isAlpha halpha
  · decide
  · decide

theorem begins_of_isTypeNameStart (w : WideLetters) (h : isTypeNameStart c = true) :
    w.begins c = true := by
  rw [WideLetters.begins, if_pos (toNat_lt_of_isTypeNameStart h)]
  exact h

theorem continues_of_isTypeNameStart (w : WideLetters) (h : isTypeNameStart c = true) :
    w.continues c = true := by
  rw [WideLetters.continues, if_pos (toNat_lt_of_isTypeNameStart h), h, Bool.true_or]

theorem continues_of_isDigit (w : WideLetters) (h : c.isDigit = true) : w.continues c = true := by
  rw [WideLetters.continues, if_pos (toNat_lt_of_isDigit h), h, Bool.or_true]

theorem isTypeNameStart_or_isDigit (h : isAlphanumeric c = true) :
    isTypeNameStart c = true ∨ c.isDigit = true := by
  rcases (Bool.or_eq_true _ _).mp h with halpha | hdigit
  · exact Or.inl (by simp [isTypeNameStart, halpha])
  · exact Or.inr hdigit

theorem continues_of_isAlphanumeric (w : WideLetters) (h : isAlphanumeric c = true) :
    w.continues c = true := by
  rcases isTypeNameStart_or_isDigit h with hstart | hdigit
  · exact continues_of_isTypeNameStart w hstart
  · exact continues_of_isDigit w hdigit

theorem isAlphanumeric_toUpper (h : isAlphanumeric c = true) :
    isAlphanumeric c.toUpper = true := by
  cases hlower : c.isLower with
  | true =>
      have hupper := isUpper_toUpper hlower
      have halpha : c.toUpper.isAlpha = true := (Bool.or_eq_true _ _).mpr (Or.inl hupper)
      exact (Bool.or_eq_true _ _).mpr (Or.inl halpha)
  | false =>
      have hsame : c.toUpper = c := by
        have hrange : ¬ ('a'.val ≤ c.val ∧ c.val ≤ 'z'.val) := by
          intro hrange
          have : c.isLower = true :=
            isLower_iff.mpr (by simpa [UInt32.le_iff_toNat_le] using hrange)
          rw [hlower] at this
          cases this
        delta Char.toUpper
        rw [dif_neg hrange]
      rw [hsame]
      exact h

theorem isAlphanumeric_of_mem_capitalized {word : List Char}
    (h : ∀ d ∈ word, isAlphanumeric d = true) :
    ∀ d ∈ capitalized word, isAlphanumeric d = true := by
  cases word with
  | nil => exact h
  | cons d ds =>
      obtain ⟨hd, hds⟩ := List.forall_mem_cons.mp h
      exact List.forall_mem_cons.mpr ⟨isAlphanumeric_toUpper hd, hds⟩

theorem isAlphanumeric_of_mem_joined {words : List (List Char)}
    (h : ∀ word ∈ words, ∀ d ∈ word, isAlphanumeric d = true) :
    ∀ d ∈ joined words, isAlphanumeric d = true := by
  cases words with
  | nil => simp [joined]
  | cons word words =>
      obtain ⟨hfirst, hothers⟩ := List.forall_mem_cons.mp h
      rw [joined, List.forall_mem_append]
      refine ⟨hfirst, fun d hd => ?_⟩
      obtain ⟨other, hother, hd⟩ := List.mem_flatMap.mp hd
      exact isAlphanumeric_of_mem_capitalized (hothers other hother) d hd

end Characters

/-- Letters and digits are an identifier once an underscore protects a digit in front. -/
theorem isIdentifier_notDigitFirst (w : WideLetters)
    (h : ∀ d ∈ c :: cs, isAlphanumeric d = true) : IsIdentifier w (notDigitFirst (c :: cs)) := by
  have hall : ∀ d ∈ c :: cs, w.continues d = true := fun d hd =>
    continues_of_isAlphanumeric w (h d hd)
  have hkind := isTypeNameStart_or_isDigit (h c List.mem_cons_self)
  cases hdigit : c.isDigit with
  | true =>
      rw [notDigitFirst, if_pos hdigit]
      exact isIdentifier_cons_iff.mpr ⟨begins_of_isTypeNameStart w rfl, hall⟩
  | false =>
      rw [notDigitFirst, if_neg (by simp [hdigit])]
      exact isIdentifier_cons_iff.mpr
        ⟨begins_of_isTypeNameStart w (by simpa [hdigit] using hkind),
          (List.forall_mem_cons.mp hall).2⟩

/-- A way of putting names in a case: letters and digits are kept in some form, and a name without
any is left as it is. -/
structure IsCase (form : List Char → List Char) : Prop where
  of_hasWord : ∀ cs, HasWord cs → ∃ c rest, (∀ d ∈ c :: rest, isAlphanumeric d = true) ∧
    form cs = notDigitFirst (c :: rest)
  of_not_hasWord : ∀ cs, ¬ HasWord cs → form cs = cs

theorem IsCase.isIdentifier {form : List Char → List Char} (h : IsCase form) (w : WideLetters)
    (hword : HasWord cs) : IsIdentifier w (form cs) := by
  obtain ⟨c, rest, hall, hform⟩ := h.of_hasWord cs hword
  rw [hform]
  exact isIdentifier_notDigitFirst w hall

/-- The form of a name is an identifier if and only if the name has a letter or digit of ASCII or is
an identifier itself. -/
theorem IsCase.isIdentifier_iff {form : List Char → List Char} (h : IsCase form)
    (w : WideLetters) (cs : List Char) :
    IsIdentifier w (form cs) ↔ HasWord cs ∨ IsIdentifier w cs := by
  by_cases hword : HasWord cs
  · exact ⟨fun _ => Or.inl hword, fun _ => h.isIdentifier w hword⟩
  · rw [h.of_not_hasWord cs hword]
    simp [hword]

theorem isAlphanumeric_of_mem_joined_nameWords (cs : List Char) :
    ∀ d ∈ joined (nameWords cs), isAlphanumeric d = true :=
  isAlphanumeric_of_mem_joined fun _ hword _ hd => isAlphanumeric_of_mem_nameWords hword hd

theorem isCase_camelChars : IsCase camelChars where
  of_hasWord cs hword := by
    have hne := hasWord_iff.mp hword
    obtain ⟨c, rest, hjoined, -⟩ := exists_head_joined hne
    refine ⟨c, rest, hjoined ▸ isAlphanumeric_of_mem_joined_nameWords cs, ?_⟩
    rw [camelChars_of_ne_nil hne, hjoined]
  of_not_hasWord cs hword := camelChars_of_nil (by simpa [hasWord_iff] using hword)

theorem isCase_pascalChars : IsCase pascalChars where
  of_hasWord cs hword := by
    have hne := hasWord_iff.mp hword
    obtain ⟨c, rest, hjoined, -⟩ := exists_head_joined hne
    refine ⟨c.toUpper, rest, ?_, by rw [pascalChars_of_ne_nil hne, hjoined, capitalized]⟩
    exact isAlphanumeric_of_mem_capitalized (hjoined ▸ isAlphanumeric_of_mem_joined_nameWords cs)
  of_not_hasWord cs hword := by
    have hnil : nameWords cs = [] := by simpa [hasWord_iff] using hword
    rw [pascalChars, hnil]

end TableSchema.TypeScript
