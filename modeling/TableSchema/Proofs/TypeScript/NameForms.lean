import Mathlib
import TableSchema.Proofs.Text.Blank
import TableSchema.Proofs.TypeScript.Identifier
import TableSchema.Text.Case

/-!
# Forms of a name

Camel case and Pascal case run the words of a name together to one word of letters and digits, with
an underscore in front if this word begins with a digit. That word is all that a second pass sees,
so putting a form in a case again changes its first letter at most.
-/

namespace TableSchema.TypeScript

open Text

/-- The form has the letters and digits of the name in their order, each in either letter case, and
an underscore in front exactly if they begin with a digit. -/
def KeepsLetters (name form : List Char) : Prop :=
  ∃ word, (∀ c ∈ word, isAlphanumeric c = true) ∧
    lowerAscii word = lowerAscii (name.filter isAlphanumeric) ∧
    form = (if word.head?.any Char.isDigit then ['_'] else []) ++ word

section Words

variable {cs word : List Char}

theorem notDigitFirst_eq (cs : List Char) :
    notDigitFirst cs = (if cs.head?.any Char.isDigit then ['_'] else []) ++ cs := by
  cases cs with
  | nil => rfl
  | cons c cs => cases hc : c.isDigit <;> simp [notDigitFirst, hc]

/-- An underscore in front of a word is no part of it. -/
theorem nameWords_notDigitFirst (hne : word ≠ []) (h : ∀ c ∈ word, isAlphanumeric c = true) :
    nameWords (notDigitFirst word) = [word] := by
  have hword : nameWords word = [word] :=
    runs_eq_singleton hne fun c hc => by simp [h c hc]
  rw [notDigitFirst_eq]
  split
  · exact (runs_cons_sep (by decide) word).trans hword
  · exact hword

theorem camelChars_notDigitFirst (hne : word ≠ []) (h : ∀ c ∈ word, isAlphanumeric c = true) :
    camelChars (notDigitFirst word) = notDigitFirst word := by
  rw [camelChars, nameWords_notDigitFirst hne h]
  simp

theorem pascalChars_notDigitFirst (hne : word ≠ []) (h : ∀ c ∈ word, isAlphanumeric c = true) :
    pascalChars (notDigitFirst word) = notDigitFirst (capitalized word) := by
  rw [pascalChars, nameWords_notDigitFirst hne h]
  simp

end Words

section Letters

theorem capitalized_ne_nil {word : List Char} (h : word ≠ []) : capitalized word ≠ [] := by
  obtain ⟨c, cs, rfl⟩ := List.exists_cons_of_ne_nil h
  exact List.cons_ne_nil _ _

theorem capitalized_capitalized (cs : List Char) :
    capitalized (capitalized cs) = capitalized cs := by
  cases cs with
  | nil => rfl
  | cons c cs => rw [capitalized, capitalized, Char.toUpper_toUpper_eq_toUpper]

theorem lowerAscii_capitalized (cs : List Char) :
    lowerAscii (capitalized cs) = lowerAscii cs := by
  cases cs with
  | nil => rfl
  | cons c cs => rw [capitalized, lowerAscii_cons, lowerAscii_cons, Char.toLower_toUpper_eq_toLower]

theorem lowerAscii_flatMap_capitalized (words : List (List Char)) :
    lowerAscii (words.flatMap capitalized) = lowerAscii words.flatten := by
  induction words with
  | nil => rfl
  | cons word words ih =>
      rw [List.flatMap_cons, List.flatten_cons, lowerAscii_append, lowerAscii_append,
        lowerAscii_capitalized, ih]

/-- Only the case of letters changes when words are run together. -/
theorem lowerAscii_joined_nameWords (cs : List Char) :
    lowerAscii (joined (nameWords cs)) = lowerAscii (cs.filter isAlphanumeric) := by
  have hflatten : (nameWords cs).flatten = cs.filter isAlphanumeric := by
    rw [nameWords, runs_flatten]
    simp
  rw [← hflatten]
  cases nameWords cs with
  | nil => rfl
  | cons word words =>
      rw [joined, List.flatten_cons, lowerAscii_append, lowerAscii_append,
        lowerAscii_flatMap_capitalized]

end Letters

/-- The forms of a name that has a word: one word with its letters and digits, which in Pascal case
begins with a capital. -/
theorem exists_word_of_hasWord {cs : List Char} (h : HasWord cs) :
    ∃ word, word ≠ [] ∧ (∀ c ∈ word, isAlphanumeric c = true) ∧
      lowerAscii word = lowerAscii (cs.filter isAlphanumeric) ∧
      camelChars cs = notDigitFirst word ∧ pascalChars cs = notDigitFirst (capitalized word) := by
  have hne := hasWord_iff.mp h
  obtain ⟨c, rest, hjoined, -⟩ := exists_head_joined hne
  refine ⟨joined (nameWords cs), by simp [hjoined], isAlphanumeric_of_mem_joined_nameWords cs,
    lowerAscii_joined_nameWords cs, camelChars_of_ne_nil hne, pascalChars_of_ne_nil hne⟩

/-- A form is left as it is by its own case. The Pascal form of a camel form is the Pascal form of
the name, and a Pascal form is its own camel form. -/
theorem forms_of_forms (cs : List Char) :
    pascalChars (pascalChars cs) = pascalChars cs ∧ camelChars (camelChars cs) = camelChars cs ∧
      pascalChars (camelChars cs) = pascalChars cs ∧
      camelChars (pascalChars cs) = pascalChars cs := by
  by_cases h : HasWord cs
  · obtain ⟨word, hne, halnum, -, hcamel, hpascal⟩ := exists_word_of_hasWord h
    have hne' := capitalized_ne_nil hne
    have halnum' := isAlphanumeric_of_mem_capitalized halnum
    rw [hcamel, hpascal, camelChars_notDigitFirst hne halnum, camelChars_notDigitFirst hne' halnum',
      pascalChars_notDigitFirst hne halnum, pascalChars_notDigitFirst hne' halnum',
      capitalized_capitalized]
    exact ⟨rfl, rfl, rfl, rfl⟩
  · have hcamel := isCase_camelChars.of_not_hasWord cs h
    have hpascal := isCase_pascalChars.of_not_hasWord cs h
    simp only [hcamel, hpascal, and_self]

theorem keepsLetters_of_hasWord {cs : List Char} (h : HasWord cs) :
    KeepsLetters cs (camelChars cs) ∧ KeepsLetters cs (pascalChars cs) := by
  obtain ⟨word, -, halnum, hletters, hcamel, hpascal⟩ := exists_word_of_hasWord h
  rw [hcamel, hpascal]
  exact ⟨⟨word, halnum, hletters, notDigitFirst_eq word⟩,
    ⟨capitalized word, isAlphanumeric_of_mem_capitalized halnum,
      (lowerAscii_capitalized word).trans hletters, notDigitFirst_eq _⟩⟩

/-- Putting a form of a name in a case gives what the name itself gives, except that a Pascal form
keeps its capital. A form consists of the letters and digits of the name, after an underscore if
they begin with a digit; a name that has none is its own form. -/
theorem caseForms_stable (name : String) :
    pascalCase (pascalCase name) = pascalCase name ∧
      camelCase (camelCase name) = camelCase name ∧
      pascalCase (camelCase name) = pascalCase name ∧
      camelCase (pascalCase name) = pascalCase name ∧
      (HasWord name.toList ∧
          KeepsLetters name.toList (camelCase name).toList ∧
          KeepsLetters name.toList (pascalCase name).toList ∨
        ¬ HasWord name.toList ∧ camelCase name = name ∧ pascalCase name = name) := by
  obtain ⟨hpascalPascal, hcamelCamel, hpascalCamel, hcamelPascal⟩ := forms_of_forms name.toList
  simp only [camelCase, pascalCase, String.toList_ofList, hpascalPascal, hcamelCamel, hpascalCamel,
    hcamelPascal, true_and]
  by_cases h : HasWord name.toList
  · exact Or.inl ⟨h, keepsLetters_of_hasWord h⟩
  · right
    rw [isCase_camelChars.of_not_hasWord _ h, isCase_pascalChars.of_not_hasWord _ h,
      String.ofList_toList]
    exact ⟨h, rfl, rfl⟩

/-- The letter outside ASCII is none of the letters of the name. -/
example : (camelCase "über 2nd-way", pascalCase "über 2nd-way", pascalCase "2nd über") =
    ("ber2ndWay", "Ber2ndWay", "_2ndBer") := by
  decide

end TableSchema.TypeScript
