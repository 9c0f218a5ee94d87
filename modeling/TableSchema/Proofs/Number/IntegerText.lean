import Mathlib.Data.List.TakeWhile
import TableSchema.Number.IntegerText

/-!
# Numerals that are digits only

A text of digits of any script that is not too long is read as the number that their values give.
Zeros in front do not count, and the decimal numeral of a natural number has the number as its
value.
-/

namespace TableSchema.Number

variable {c : Char} {cs : List Char}

theorem bounds_of_isDigit (h : c.isDigit = true) : 48 ≤ c.toNat ∧ c.toNat ≤ 57 :=
  Char.isDigit_iff_toNat.mp h

theorem isBlank_of_isDigit (h : c.isDigit = true) : Text.isBlank c = false := by
  have := bounds_of_isDigit h
  simp [Text.isBlank, Text.inRanges, Text.blankRanges]
  omega

theorem isAsciiBlank_of_isDigit (h : c.isDigit = true) : Text.isAsciiBlank c = false := by
  have := bounds_of_isDigit h
  have hspace : c ≠ ' ' := by
    rintro rfl
    exact absurd h (by decide)
  simp [Text.isAsciiBlank, hspace]
  omega

theorem le_of_isDigit (h : c.isDigit = true) : '0' ≤ c ∧ c ≤ '9' := by
  simpa [Char.le_def, UInt32.le_iff_toNat_le] using bounds_of_isDigit h

theorem textIsDigit_of_isDigit (h : c.isDigit = true) : Text.isDigit c = true := by
  simp [Text.isDigit, Text.digit?, Text.asciiDigit?, le_of_isDigit h]

theorem toLower_of_isDigit (h : c.isDigit = true) : c.toLower = c := by
  have := bounds_of_isDigit h
  unfold Char.toLower
  split
  · rename_i hupper
    have hge : 65 ≤ c.toNat := by simpa [UInt32.le_iff_toNat_le] using hupper.1
    omega
  · rfl

theorem digitOf?_of_isDigit (h : c.isDigit = true) : digitOf? 10 c = some (c.toNat - 48) := by
  have hc := bounds_of_isDigit h
  rw [digitOf?, Text.hexValue?, if_pos (le_of_isDigit h), Option.filter_some, if_pos]
  simp
  omega

theorem digitsValue_of_isDigit (h : ∀ c ∈ cs, c.isDigit = true) :
    digitsValue 10 cs = Nat.ofDigitChars 10 cs 0 := by
  have hfold (n : Nat) : (cs.filterMap (digitOf? 10)).foldl (fun n d => n * 10 + d) n =
      Nat.ofDigitChars 10 cs n := by
    induction cs generalizing n with
    | nil => rfl
    | cons c cs ih =>
        obtain ⟨hc, hcs⟩ := List.forall_mem_cons.mp h
        rw [List.filterMap_cons_some (digitOf?_of_isDigit hc), List.foldl_cons, ih hcs,
          Nat.ofDigitChars, Nat.ofDigitChars, List.foldl_cons, Nat.mul_comm]
        rfl
  exact hfold 0

theorem asciiForm_of_isDigit (h : ∀ c ∈ cs, c.isDigit = true) : asciiForm cs = cs := by
  rw [asciiForm]
  refine (List.map_congr_left fun c hc => ?_).trans (List.map_id cs)
  have := bounds_of_isDigit (h c hc)
  rw [if_pos (by omega), id]

theorem ne_of_isDigit {d : Char} (h : c.isDigit = true) (hd : d.isDigit = false) : c ≠ d := by
  rintro rfl
  rw [h] at hd
  cases hd

theorem wellSpaced_of_isDigit (h : ∀ c ∈ cs, c.isDigit = true) : wellSpaced cs = true := by
  have hunderscore : '_' ∉ cs := fun hmem => absurd (h _ hmem) (by decide)
  have hpairs : ∀ p ∈ cs.zip cs.tail, p ≠ ('_', '_') := by
    rintro p hp rfl
    exact hunderscore (List.of_mem_zip hp).1
  have hhead : cs.head? ≠ some '_' := fun hmem => hunderscore (List.mem_of_head? hmem)
  have hlast : cs.getLast? ≠ some '_' := fun hmem => hunderscore (List.mem_of_getLast? hmem)
  simpa [wellSpaced, hhead, hlast] using hpairs

/-- A text of digits gives the number of its digits unless it is too long. -/
theorem readInteger_of_isDigit (hne : cs ≠ []) (h : ∀ c ∈ cs, c.isDigit = true) :
    readInteger 10 cs = if maxDigits < cs.length then .error (.tooLong cs.length)
      else .ok (Nat.ofDigitChars 10 cs 0) := by
  obtain ⟨c, rest, rfl⟩ := List.exists_cons_of_ne_nil hne
  have hc : c.isDigit = true := h c List.mem_cons_self
  have hblank : (asciiForm (c :: rest)).dropWhile Text.isAsciiBlank = c :: rest := by
    rw [asciiForm_of_isDigit h, List.dropWhile_cons_of_neg (by simp [isAsciiBlank_of_isDigit hc])]
  have hsign : splitSign (c :: rest) = (false, c :: rest) := by
    have hminus : c ≠ '-' := ne_of_isDigit hc (by decide)
    have hplus : c ≠ '+' := ne_of_isDigit hc (by decide)
    simp [splitSign, hminus, hplus]
  have hmark : dropMark 10 (c :: rest) = c :: rest := by
    unfold dropMark
    split
    · rename_i heq
      rw [if_neg (by simp [baseMark?]), heq]
    · rfl
  have hnumeral : (c :: rest).takeWhile (fun c => c == '_' || (digitOf? 10 c).isSome) =
      c :: rest := by
    rw [List.takeWhile_eq_self_iff]
    intro d hd
    simp [digitOf?_of_isDigit (h d hd)]
  have hdigits : (c :: rest).filter (· != '_') = c :: rest := by
    rw [List.filter_eq_self]
    intro d hd
    simpa using ne_of_isDigit (h d hd) (by decide)
  unfold readInteger
  simp only [hblank, hsign, hmark, hnumeral, hdigits, wellSpaced_of_isDigit h,
    digitsValue_of_isDigit h, List.drop_length, signed]
  simp

section Scripts

/-- The number that decimal digits of any script give. -/
def decimalValue (cs : List Char) : Nat :=
  cs.foldl (fun n c => 10 * n + (Text.digit? c).getD 0) 0

theorem isDigit_ofNat {d : Nat} (h : d < 10) :
    (Char.ofNat (48 + d)).isDigit = true ∧ (Char.ofNat (48 + d)).toNat - 48 = d := by
  have hall : ∀ d < 10,
      (Char.ofNat (48 + d)).isDigit = true ∧ (Char.ofNat (48 + d)).toNat - 48 = d := by
    decide
  exact hall d h

/-- The digits above ASCII are no blanks. -/
theorem isBlank_of_digitZeros {z : Nat} (hz : z ∈ Text.digitZeros)
    (h : z ≤ c.toNat ∧ c.toNat < z + 10) : 127 ≤ c.toNat ∧ Text.isBlank c = false := by
  have hall : ∀ z ∈ Text.digitZeros,
      127 ≤ z ∧ ∀ i < 10, Text.inRanges Text.blankRanges (z + i) = false := by
    decide +kernel
  obtain ⟨hle, hblank⟩ := hall z hz
  have hsum : z + (c.toNat - z) = c.toNat := by omega
  have hinner := hblank (c.toNat - z) (by omega)
  rw [hsum] at hinner
  exact ⟨by omega, hinner⟩

/-- A digit of any script stands for the ASCII digit of its value. -/
theorem exists_asciiForm_cons (h : Text.isDigit c = true) :
    ∃ d, d.isDigit = true ∧ d.toNat - 48 = (Text.digit? c).getD 0 ∧
      ∀ cs, asciiForm (c :: cs) = d :: asciiForm cs := by
  rw [Text.isDigit, Text.digit?] at h
  cases hascii : Text.asciiDigit? c with
  | some n =>
      obtain ⟨hrange, hn⟩ := Option.ite_none_right_eq_some.mp hascii
      have hc : c.isDigit = true := by
        rw [Char.isDigit_iff_toNat]
        simpa [Char.le_def, UInt32.le_iff_toNat_le] using hrange
      refine ⟨c, hc, ?_, fun cs => ?_⟩
      · simpa [Text.digit?, hascii] using Option.some.inj hn
      · have := bounds_of_isDigit hc
        rw [asciiForm, List.map_cons, if_pos (by omega), ← asciiForm]
  | none =>
      simp only [hascii, Option.isSome_map] at h
      obtain ⟨z, hfind⟩ := Option.isSome_iff_exists.mp h
      have hz : z ≤ c.toNat ∧ c.toNat < z + 10 := by
        simpa using List.find?_some hfind
      have hvalue : Text.digit? c = some (c.toNat - z) := by
        simp only [Text.digit?, hascii, hfind, Option.map_some]
      obtain ⟨hwide, hblank⟩ := isBlank_of_digitZeros (List.mem_of_find?_eq_some hfind) hz
      obtain ⟨hdigit, hnat⟩ := isDigit_ofNat (d := c.toNat - z) (by omega)
      refine ⟨_, hdigit, by rw [hnat, hvalue, Option.getD_some], fun cs => ?_⟩
      rw [asciiForm, List.map_cons, if_neg (by omega), hblank, hvalue, ← asciiForm]
      rfl

/-- A text of digits of any script has an ASCII form of as many digits and of the same value. -/
theorem asciiForm_of_textIsDigit (h : ∀ c ∈ cs, Text.isDigit c = true) :
    (∀ c ∈ asciiForm cs, c.isDigit = true) ∧
      Nat.ofDigitChars 10 (asciiForm cs) 0 = decimalValue cs := by
  have hfold (n : Nat) : (∀ c ∈ asciiForm cs, c.isDigit = true) ∧
      Nat.ofDigitChars 10 (asciiForm cs) n =
        cs.foldl (fun n c => 10 * n + (Text.digit? c).getD 0) n := by
    induction cs generalizing n with
    | nil => exact ⟨fun _ hc => absurd hc List.not_mem_nil, rfl⟩
    | cons c cs ih =>
        obtain ⟨hc, hcs⟩ := List.forall_mem_cons.mp h
        obtain ⟨d, hd, hvalue, hform⟩ := exists_asciiForm_cons hc
        obtain ⟨hdigits, hrest⟩ := ih hcs (10 * n + (d.toNat - 48))
        rw [hform, List.forall_mem_cons, List.foldl_cons, ← hvalue, ← hrest]
        exact ⟨⟨hd, hdigits⟩, rfl⟩
  exact hfold 0

/-- A text of digits of any script gives their number unless it is too long. -/
theorem readInteger_of_textIsDigit (hne : cs ≠ []) (h : ∀ c ∈ cs, Text.isDigit c = true) :
    readInteger 10 cs = if maxDigits < cs.length then .error (.tooLong cs.length)
      else .ok (decimalValue cs) := by
  obtain ⟨hdigits, hvalue⟩ := asciiForm_of_textIsDigit h
  have hlength : (asciiForm cs).length = cs.length := List.length_map _
  have hform : readInteger 10 (asciiForm cs) = readInteger 10 cs := by
    unfold readInteger
    rw [asciiForm_of_isDigit hdigits]
  have hne' : asciiForm cs ≠ [] := by
    rw [← List.length_pos_iff, hlength]
    exact List.length_pos_iff.mpr hne
  rw [← hform, readInteger_of_isDigit hne' hdigits, hlength, hvalue]

/-- Zeros in front do not count. -/
theorem decimalValue_append_of_zeros {zeros : List Char} (hzeros : ∀ c ∈ zeros, c = '0')
    (cs : List Char) : decimalValue (zeros ++ cs) = decimalValue cs := by
  have hzero : zeros.foldl (fun n c => 10 * n + (Text.digit? c).getD 0) 0 = 0 := by
    induction zeros with
    | nil => rfl
    | cons c zeros ih =>
        obtain ⟨rfl, htail⟩ := List.forall_mem_cons.mp hzeros
        exact ih htail
  rw [decimalValue, List.foldl_append, hzero, ← decimalValue]

theorem toList_toString (n : Nat) : (toString n).toList = Nat.toDigits 10 n := by
  rw [Nat.toString_eq_ofList_toDigits, String.toList_ofList]

theorem isDigit_of_mem_toString {n : Nat} (h : c ∈ (toString n).toList) : c.isDigit = true := by
  rw [toList_toString] at h
  exact Nat.isDigit_of_mem_toDigits (by decide) (by decide) h

theorem decimalValue_toString (n : Nat) : decimalValue (toString n).toList = n := by
  have hdigits : ∀ c ∈ (toString n).toList, c.isDigit = true := fun _ => isDigit_of_mem_toString
  rw [← (asciiForm_of_textIsDigit fun c hc => textIsDigit_of_isDigit (hdigits c hc)).2,
    asciiForm_of_isDigit hdigits, toList_toString, Nat.ofDigitChars_ten_toDigits]

end Scripts

end TableSchema.Number
