import TableSchema.Proofs.Text.Spread
import TableSchema.Proofs.ValueType.Lookup

/-!
# Spellings of a type's name

The name of a type in SQL may be written in any letter case, with blanks at its ends and more of
them between its words, with blanks next to the parentheses, and with zeros before the length. In
all these spellings the type is found, and no other texts are found as types than those whose normal
form names one.
-/

namespace TableSchema

open Text Lookup

/-- The type's name in SQL in some spelling. -/
inductive Respelled : ValueType → List Char → Prop
  | scalar {kind : ScalarKind} {front cs back : List Char} :
      AreBlanks front → Spread (words kind.sqlName.toList) cs → AreBlanks back →
        Respelled (.scalar kind) (front ++ (cs ++ back))
  | character {t : CharacterType} {front name g₁ g₂ zeros g₃ back : List Char} :
      AreBlanks front → lowerAscii name = lowerAscii t.kind.sqlName.toList → AreBlanks g₁ →
        AreBlanks g₂ → (∀ c ∈ zeros, c = '0') →
        (zeros ++ (toString t.length).toList).length ≤ Number.maxDigits → AreBlanks g₃ →
        AreBlanks back →
        Respelled (.character t) (front ++ (name ++ (g₁ ++ '(' ::
          (g₂ ++ (zeros ++ (toString t.length).toList ++ (g₃ ++ ')' :: back))))))

/-- A text of ASCII characters and blanks is in normal form once its letters are in lower case and
its blanks are collapsed. -/
theorem normalized_eq_collapse {cs : List Char}
    (h : ∀ c ∈ cs, c.toNat < 128 ∨ isBlank c = true) :
    normalized (String.ofList cs) = collapse (lowerAscii cs) := by
  obtain ⟨front, back, hcs, -, -⟩ := exists_eq_append_trimBy isBlank cs
  have hlower : lowerCase (trimBy isBlank cs) = lowerAscii (trimBy isBlank cs) := by
    refine lowerCase_eq_map fun c hc => ?_
    have hmem : c ∈ cs := by
      rw [hcs]
      simp [hc]
    rcases h c hmem with hascii | hblank
    · refine ⟨?_, if_pos hascii⟩
      rintro rfl
      exact absurd hascii (by decide)
    · obtain ⟨hsigma, hlower, hsame⟩ := lower_of_isBlank hblank
      exact ⟨hsigma, hsame.symm ▸ hlower⟩
  rw [normalized, String.toList_ofList, hlower, collapse, collapse, words, words, lowerAscii,
    lowerAscii, runs_map isBlank_toLower, runs_map isBlank_toLower, runs_trimBy]

section Numerals

open Number

variable {zeros : List Char} {n : Nat}

/-- Zeros in front do not change what number a numeral gives. -/
theorem isNumeral_of_zeros (hzeros : ∀ c ∈ zeros, c = '0')
    (hlength : (zeros ++ (toString n).toList).length ≤ maxDigits) :
    IsNumeral (zeros ++ (toString n).toList) n where
  ne_nil := by simp
  digits := by
    rw [List.forall_mem_append]
    refine ⟨fun c hc => ?_, fun c hc => textIsDigit_of_isDigit (isDigit_of_mem_toString hc)⟩
    rw [hzeros c hc]
    decide
  length_le := hlength
  value := by rw [decimalValue_append_of_zeros hzeros, decimalValue_toString]

end Numerals

section Respellings

theorem areBlanks_nil : AreBlanks [] :=
  fun _ hc => absurd hc List.not_mem_nil

theorem spaces_collapsedGap (gap : List Char) : ∀ c ∈ collapsedGap gap, c = ' ' := by
  rw [collapsedGap]
  split <;> simp

theorem arePlain_words_sqlName (kind : ScalarKind) : ArePlain (words kind.sqlName.toList) := by
  rw [arePlain_iff]
  cases kind <;> decide

theorem mem_scalarNames (kind : ScalarKind) :
    (String.ofList ([' '].intercalate ((words kind.sqlName.toList).map lowerAscii)), kind) ∈
      scalarNames := by
  cases kind <;> decide

theorem mem_characterNames (kind : CharacterKind) :
    (String.ofList (lowerAscii kind.sqlName.toList), kind) ∈ characterNames := by
  cases kind <;> decide

theorem isPlain_sqlName (kind : CharacterKind) :
    kind.sqlName.toList ≠ [] ∧ ∀ c ∈ kind.sqlName.toList, IsPlain c := by
  have hplain : ArePlain [kind.sqlName.toList] := by
    rw [arePlain_iff]
    cases kind <;> decide
  exact hplain _ List.mem_cons_self

/-- The normal form of a name with a numeral in parentheses. -/
theorem normalized_sized {front name g₁ g₂ numeral g₃ back : List Char} (hfront : AreBlanks front)
    (hname : name ≠ [] ∧ ∀ c ∈ name, IsPlain c) (h₁ : AreBlanks g₁) (h₂ : AreBlanks g₂)
    (hnumeral : numeral ≠ [] ∧ ∀ c ∈ numeral, c.isDigit = true) (h₃ : AreBlanks g₃)
    (hback : AreBlanks back) :
    normalized (String.ofList (front ++ (name ++ (g₁ ++ '(' ::
        (g₂ ++ (numeral ++ (g₃ ++ ')' :: back))))))) =
      lowerAscii name ++ (collapsedGap g₁ ++ '(' ::
        (collapsedGap g₂ ++ (numeral ++ (collapsedGap g₃ ++ [')'])))) := by
  have hchars : ∀ c ∈ front ++ (name ++ (g₁ ++ '(' :: (g₂ ++ (numeral ++ (g₃ ++ ')' :: back))))),
      c.toNat < 128 ∨ isBlank c = true := by
    have hblanks {gap : List Char} (hgap : AreBlanks gap) :
        ∀ c ∈ gap, c.toNat < 128 ∨ isBlank c = true := fun c hc => Or.inr (hgap c hc)
    have hascii : ∀ c ∈ numeral, c.toNat < 128 ∨ isBlank c = true := fun c hc => by
      have := Number.bounds_of_isDigit (hnumeral.2 c hc)
      omega
    rw [List.forall_mem_append, List.forall_mem_append, List.forall_mem_append,
      List.forall_mem_cons, List.forall_mem_append, List.forall_mem_append,
      List.forall_mem_append, List.forall_mem_cons]
    exact ⟨hblanks hfront, fun c hc => Or.inl (hname.2 c hc).1, hblanks h₁, by decide,
      hblanks h₂, hascii, hblanks h₃, by decide, hblanks hback⟩
  have hopen : isBlank '(' = false := by decide
  have hclose : isBlank ')' = false := by decide
  have hlower : lowerAscii numeral = numeral :=
    (List.map_congr_left fun c hc => Number.toLower_of_isDigit (hnumeral.2 c hc)).trans
      (List.map_id numeral)
  have hplain : ∀ c ∈ numeral, isBlank c = false :=
    fun c hc => Number.isBlank_of_isDigit (hnumeral.2 c hc)
  obtain ⟨d, ds, rfl⟩ := List.exists_cons_of_ne_nil hnumeral.1
  have hlast : collapse (')' :: back) = [')'] :=
    (collapse_append_right hback [')']).trans
      (collapse_word (List.cons_ne_nil _ _) (by simpa using hclose))
  have hdigits : collapse (d :: ds ++ (g₃ ++ ')' :: back)) =
      d :: ds ++ (collapsedGap g₃ ++ [')']) := by
    rw [collapse_word_append hnumeral.1 hplain h₃ hclose, hlast]
  have hinner : collapse ('(' :: (g₂ ++ (d :: ds ++ (g₃ ++ ')' :: back)))) =
      '(' :: (collapsedGap g₂ ++ (d :: ds ++ (collapsedGap g₃ ++ [')']))) := by
    have h := collapse_word_append (List.cons_ne_nil '(' []) (by simpa using hopen) h₂
      (hplain d List.mem_cons_self) (ds ++ (g₃ ++ ')' :: back))
    rw [← List.cons_append, hdigits] at h
    exact h
  have hparens : ('(' : Char).toLower = '(' ∧ (')' : Char).toLower = ')' := by decide
  rw [normalized_eq_collapse hchars]
  simp only [lowerAscii_append, lowerAscii_cons, hparens, lowerAscii_blanks hfront,
    lowerAscii_blanks h₁, lowerAscii_blanks h₂, lowerAscii_blanks h₃, lowerAscii_blanks hback]
  rw [lowerAscii_cons] at hlower
  rw [hlower, collapse_append_left hfront, collapse_word_append (lowerAscii_ne_nil hname.1)
    (isBlank_of_mem_lowerAscii hname.2) h₁ hopen, hinner]

/-- In every spelling the normal form of a type's name names the type. -/
theorem names_of_respelled {t : ValueType} {cs : List Char} (h : Respelled t cs) :
    Names (normalized (String.ofList cs)) t := by
  cases h with
  | @scalar kind front cs back hfront hspread hback =>
      have hwords := arePlain_words_sqlName kind
      have hchars : ∀ c ∈ front ++ (cs ++ back), c.toNat < 128 ∨ isBlank c = true := by
        rw [List.forall_mem_append, List.forall_mem_append]
        exact ⟨fun c hc => Or.inr (hfront c hc), hspread.forall_mem hwords,
          fun c hc => Or.inr (hback c hc)⟩
      rw [normalized_eq_collapse hchars, lowerAscii_append, lowerAscii_blanks hfront,
        collapse_append_left hfront, hspread.collapse_eq hwords hback]
      exact .scalar (mem_scalarNames kind)
  | @character t front name g₁ g₂ zeros g₃ back hfront hname h₁ h₂ hzeros hlength h₃ hback =>
      have hplain := isPlain_of_lowerAscii_eq (isPlain_sqlName t.kind) hname
      have hnumeral := isNumeral_of_zeros hzeros hlength
      have hdigits : ∀ c ∈ zeros ++ (toString t.length).toList, c.isDigit = true := by
        rw [List.forall_mem_append]
        refine ⟨fun c hc => ?_, fun _ => Number.isDigit_of_mem_toString⟩
        rw [hzeros c hc]
        rfl
      rw [normalized_sized hfront hplain h₁ h₂ ⟨hnumeral.ne_nil, hdigits⟩ h₃ hback, hname]
      exact .character ⟨_, _, _, _, mem_characterNames t.kind, spaces_collapsedGap g₁,
        spaces_collapsedGap g₂, spaces_collapsedGap g₃, rfl⟩ hnumeral

theorem spread_intercalate {ws : List (List Char)} (h : ws ≠ []) :
    Spread ws ([' '].intercalate ws) := by
  induction ws with
  | nil => exact absurd rfl h
  | cons w ws ih =>
      cases ws with
      | nil =>
          rw [List.intercalate_singleton]
          exact .single rfl
      | cons v vs =>
          rw [List.intercalate_cons_cons]
          have hspace : AreBlanks [' '] := by decide
          have hspread : Spread (w :: v :: vs) (w ++ ([' '] ++ [' '].intercalate (v :: vs))) :=
            .cons rfl (List.cons_ne_nil _ _) hspace (ih (List.cons_ne_nil v vs))
          simpa using hspread

/-- A type that is no enumeration has its own name as a spelling. -/
theorem respelled_sqlName {t : ValueType} (h : t.enum? = none) : Respelled t t.sqlName.toList := by
  cases t with
  | scalar kind =>
      have hwords : words kind.sqlName.toList ≠ [] ∧
          [' '].intercalate (words kind.sqlName.toList) = kind.sqlName.toList := by
        cases kind <;> decide
      have hspread := spread_intercalate hwords.1
      rw [hwords.2] at hspread
      have hrespelled := Respelled.scalar areBlanks_nil hspread areBlanks_nil
      rwa [List.nil_append, List.append_nil] at hrespelled
  | character t =>
      have hlength : ([] ++ (toString t.length).toList).length ≤ Number.maxDigits := by
        have hbound : t.length < 10 ^ 8 := lt_of_le_of_lt t.length_le (by decide)
        rw [List.nil_append, Number.toList_toString]
        exact ((Nat.length_toDigits_le_iff (by decide) (by decide)).mpr hbound).trans (by decide)
      have hname : t.sqlName.toList =
          t.kind.sqlName.toList ++ '(' :: ((toString t.length).toList ++ [')']) := by
        simp [CharacterType.sqlName]
      have hrespelled := Respelled.character (t := t) areBlanks_nil rfl areBlanks_nil areBlanks_nil
        (fun _ hc => absurd hc List.not_mem_nil) hlength areBlanks_nil areBlanks_nil
      rw [ValueType.sqlName, hname]
      simpa using hrespelled
  | enumeration e => cases h

/-- A type that is no enumeration is found by its name in SQL. -/
theorem lookupType_sqlName {t : ValueType} (h : t.enum? = none) : lookupType t.sqlName = .ok t := by
  have hnames := names_of_respelled (respelled_sqlName h)
  rw [String.ofList_toList] at hnames
  exact lookupType_eq_ok_iff_names.mpr hnames

end Respellings

/-- A scalar or character type is found by every spelling of its name. What a text is found as is
the type that its normal form names, and a text whose normal form names none is refused. -/
theorem lookupType_spellings (t : ValueType) (spec : String) :
    (Respelled t spec.toList → lookupType spec = .ok t) ∧
      (lookupType spec = .ok t ↔ Names (normalized spec) t) ∧
      ((∃ fault, lookupType spec = .error fault) ↔ ∀ u, ¬ Names (normalized spec) u) := by
  refine ⟨fun h => ?_, lookupType_eq_ok_iff_names, ?_⟩
  · have hnames := names_of_respelled h
    rw [String.ofList_toList] at hnames
    exact lookupType_eq_ok_iff_names.mpr hnames
  · simp only [← lookupType_eq_ok_iff_names]
    cases lookupType spec with
    | error fault => simp
    | ok u => simp

end TableSchema

namespace TableSchema.Sample

/-- The type of short descriptions. -/
def description : CharacterType :=
  ⟨.varchar, 255, by decide, by decide⟩

end TableSchema.Sample

namespace TableSchema

/-- A name in mixed case with blanks of several kinds wherever they may stand and zeros before the
length. -/
theorem lookupType_description :
    Respelled (.character Sample.description) "\t VarCHAR\u00a0( 0255\u2003) \n".toList ∧
      lookupType "\t VarCHAR\u00a0( 0255\u2003) \n" = .ok (.character Sample.description) := by
  have hspelled :
      Respelled (.character Sample.description) "\t VarCHAR\u00a0( 0255\u2003) \n".toList :=
    @Respelled.character Sample.description ['\t', ' '] "VarCHAR".toList ['\u00a0'] [' '] ['0']
      ['\u2003'] [' ', '\n'] (by decide) (by decide) (by decide) (by decide) (by simp)
      (by decide) (by decide) (by decide)
  exact ⟨hspelled, (lookupType_spellings _ _).1 hspelled⟩

end TableSchema
