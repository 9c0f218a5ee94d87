import TableSchema.Grouping
import TableSchema.Number.IntegerText
import TableSchema.Text.JsonString

/-!
# Strings of JSON read back

A string of JSON stands for UTF-16 units, and two of them may stand for one character. So it is read
in two steps, first to units and then to characters. The reader takes every string of JSON, not only
those in ASCII; a half of a pair that stands alone is no character and is refused. Every text is
read back from its string.
-/

namespace TableSchema.Text

/-- The UTF-16 units of a character. -/
def utf16Units (c : Char) : List Nat :=
  if c.toNat < 0x10000 then [c.toNat]
  else [0xD800 + (c.toNat - 0x10000) / 0x400, 0xDC00 + (c.toNat - 0x10000) % 0x400]

/-- The characters of UTF-16 units. -/
def ofUtf16Units? : List Nat → Option (List Char)
  | [] => some []
  | u :: us =>
    if u < 0xD800 ∨ 0xDFFF < u ∧ u < 0x10000 then (ofUtf16Units? us).map (Char.ofNat u :: ·)
    else match us with
      | [] => none
      | v :: vs =>
        if u < 0xDC00 ∧ 0xDC00 ≤ v ∧ v < 0xE000 then
          (ofUtf16Units? vs).map
            (Char.ofNat (0x10000 + (u - 0xD800) * 0x400 + (v - 0xDC00)) :: ·)
        else none

/-- What the character after a backslash stands for. -/
def jsonEscapes : List (Char × Char) := [
    ('"', '"'), ('\\', '\\'), ('/', '/'), ('b', '\x08'), ('f', '\x0c'), ('n', '\n'), ('r', '\r'),
    ('t', '\t')]

/-- The units up to the closing quote, and what follows it. -/
def readJsonUnits : List Char → Option (List Nat × List Char)
  | [] => none
  | c :: cs =>
    if c = '"' then some ([], cs)
    else if c = '\\' then
      match cs with
      | 'u' :: h₁ :: h₂ :: h₃ :: h₄ :: ds =>
        if [h₁, h₂, h₃, h₄].all fun h => (hexValue? h).isSome then
          (readJsonUnits ds).map fun r => (Number.digitsValue 16 [h₁, h₂, h₃, h₄] :: r.1, r.2)
        else none
      | e :: ds => do
        let d ← lookupFirst e jsonEscapes
        (readJsonUnits ds).map fun r => (d.toNat :: r.1, r.2)
      | [] => none
    else if c.toNat < 32 then none
    else (readJsonUnits cs).map fun r => (utf16Units c ++ r.1, r.2)

/-- The text that a string of JSON stands for, and what follows the string. -/
def readJsonString : List Char → Option (String × List Char)
  | '"' :: cs => do
    let r ← readJsonUnits cs
    let ds ← ofUtf16Units? r.1
    return (String.ofList ds, r.2)
  | _ => none

section Hexadecimal

theorem hexValue?_hexDigit {n : Nat} (h : n < 16) : hexValue? (hexDigit n) = some n := by
  revert n
  decide

theorem digitOf?_hexDigit {n : Nat} (h : n < 16) : Number.digitOf? 16 (hexDigit n) = some n := by
  rw [Number.digitOf?, hexValue?_hexDigit h, Option.filter_some, if_pos (by simpa using h)]

theorem isSome_hexValue?_of_mem_hex {width n : Nat} {c : Char} (h : c ∈ hex width n) :
    (hexValue? c).isSome = true := by
  induction width generalizing n with
  | zero => cases h
  | succ width ih =>
      rcases List.mem_append.mp h with hfront | hlast
      · exact ih hfront
      · obtain rfl := List.mem_singleton.mp hlast
        rw [hexValue?_hexDigit (Nat.mod_lt _ (by decide)), Option.isSome_some]

/-- Hexadecimal digits give back the number that they are the last digits of. -/
theorem digitsValue_hex (width n : Nat) :
    Number.digitsValue 16 (hex width n) = n % Nat.pow 16 width := by
  induction width generalizing n with
  | zero => exact (Nat.mod_one n).symm
  | succ width ih =>
      have hlast : [hexDigit (n % 16)].filterMap (Number.digitOf? 16) = [n % 16] := by
        rw [List.filterMap_cons_some (digitOf?_hexDigit (Nat.mod_lt _ (by decide))),
          List.filterMap_nil]
      calc
        Number.digitsValue 16 (hex (width + 1) n)
          = Number.digitsValue 16 (hex width (n / 16)) * 16 + n % 16 := by
            rw [Number.digitsValue, hex, List.filterMap_append, hlast, List.foldl_append]
            rfl
        _ = n / 16 % Nat.pow 16 width * 16 + n % 16 := by rw [ih]
        _ = n % (16 * Nat.pow 16 width) := by
            rw [Nat.mod_mul]
            omega
        _ = n % Nat.pow 16 (width + 1) := by
            rw [Nat.mul_comm]
            rfl

end Hexadecimal

section Characters

variable {c : Char} {n : Nat}

theorem utf16Units_lt (c : Char) : ∀ n ∈ utf16Units c, n < 0x10000 := by
  have hvalid : c.toNat < 0xD800 ∨ 0xDFFF < c.toNat ∧ c.toNat < 0x110000 := c.valid
  by_cases hshort : c.toNat < 0x10000
  · rw [utf16Units, if_pos hshort]
    simpa using hshort
  · rw [utf16Units, if_neg hshort]
    simp only [List.forall_mem_cons]
    exact ⟨by omega, by omega, nofun⟩

/-- A character is written with a letter of its own after a backslash, as it is, or by its units. -/
theorem jsonChar_cases (c : Char) :
    (∃ e, (e, c) ∈ jsonEscapes ∧ jsonChar c = ['\\', e]) ∨
      (32 ≤ c.toNat ∧ c ≠ '"' ∧ c ≠ '\\' ∧ jsonChar c = [c]) ∨
      jsonChar c = (utf16Units c).flatMap jsonUnit := by
  by_cases hmark : c = '"' ∨ c = '\\'
  · left
    rcases hmark with rfl | rfl
    · exact ⟨'"', by decide, rfl⟩
    · exact ⟨'\\', by decide, rfl⟩
  by_cases hline : c = '\n'
  · exact Or.inl ⟨'n', by subst hline; decide, by subst hline; rfl⟩
  by_cases hreturn : c = '\r'
  · exact Or.inl ⟨'r', by subst hreturn; decide, by subst hreturn; rfl⟩
  by_cases htab : c = '\t'
  · exact Or.inl ⟨'t', by subst htab; decide, by subst htab; rfl⟩
  by_cases hfeed : c = '\x0c'
  · exact Or.inl ⟨'f', by subst hfeed; decide, by subst hfeed; rfl⟩
  by_cases hback : c = '\x08'
  · exact Or.inl ⟨'b', by subst hback; decide, by subst hback; rfl⟩
  right
  rw [jsonChar, if_neg hmark, if_neg hline, if_neg hreturn, if_neg htab, if_neg hfeed, if_neg hback]
  by_cases hplain : 32 ≤ c.toNat ∧ c.toNat < 127
  · rw [if_pos hplain]
    rw [not_or] at hmark
    exact Or.inl ⟨hplain.1, hmark.1, hmark.2, rfl⟩
  · right
    rw [if_neg hplain, utf16Units]
    split
    · simp
    · simp

theorem readJsonUnits_quote (x : List Char) : readJsonUnits ('"' :: x) = some ([], x) := by
  rw [readJsonUnits.eq_def]
  exact if_pos rfl

theorem readJsonUnits_escape {e : Char} (h : (e, c) ∈ jsonEscapes) (x : List Char) :
    readJsonUnits ('\\' :: e :: x) =
      (readJsonUnits x).map fun r => (utf16Units c ++ r.1, r.2) := by
  have hall : ∀ p ∈ jsonEscapes, readJsonUnits ('\\' :: p.1 :: x) =
      (readJsonUnits x).map fun r => (utf16Units p.2 ++ r.1, r.2) := by
    simp only [jsonEscapes, List.forall_mem_cons]
    exact ⟨rfl, rfl, rfl, rfl, rfl, rfl, rfl, rfl, nofun⟩
  exact hall (e, c) h

theorem readJsonUnits_plain (hcontrol : 32 ≤ c.toNat) (hquote : c ≠ '"') (hmark : c ≠ '\\')
    (x : List Char) :
    readJsonUnits (c :: x) = (readJsonUnits x).map fun r => (utf16Units c ++ r.1, r.2) := by
  rw [readJsonUnits.eq_def]
  simp only [if_neg hquote, if_neg hmark, if_neg (Nat.not_lt.mpr hcontrol)]

theorem readJsonUnits_jsonUnit (h : n < 0x10000) (x : List Char) :
    readJsonUnits (jsonUnit n ++ x) = (readJsonUnits x).map fun r => (n :: r.1, r.2) := by
  obtain ⟨h₁, h₂, h₃, h₄, hdigits⟩ : ∃ h₁ h₂ h₃ h₄, hex 4 n = [h₁, h₂, h₃, h₄] :=
    ⟨_, _, _, _, rfl⟩
  have hall : [h₁, h₂, h₃, h₄].all (fun h => (hexValue? h).isSome) = true := by
    rw [← hdigits, List.all_eq_true]
    intro d hd
    exact isSome_hexValue?_of_mem_hex hd
  have hvalue : Number.digitsValue 16 [h₁, h₂, h₃, h₄] = n := by
    rw [← hdigits, digitsValue_hex]
    exact Nat.mod_eq_of_lt h
  have hread : readJsonUnits ('\\' :: 'u' :: h₁ :: h₂ :: h₃ :: h₄ :: x) =
      if [h₁, h₂, h₃, h₄].all fun h => (hexValue? h).isSome then
        (readJsonUnits x).map fun r => (Number.digitsValue 16 [h₁, h₂, h₃, h₄] :: r.1, r.2)
      else none := rfl
  rw [jsonUnit, hdigits]
  refine hread.trans ?_
  rw [if_pos hall, hvalue]

theorem readJsonUnits_flatMap_jsonUnit {us : List Nat} (h : ∀ n ∈ us, n < 0x10000)
    (x : List Char) :
    readJsonUnits (us.flatMap jsonUnit ++ x) =
      (readJsonUnits x).map fun r => (us ++ r.1, r.2) := by
  induction us with
  | nil => simp
  | cons n us ih =>
      obtain ⟨hn, hus⟩ := List.forall_mem_cons.mp h
      rw [List.flatMap_cons, List.append_assoc, readJsonUnits_jsonUnit hn, ih hus, Option.map_map]
      rfl

/-- What is written for a character is read as its units. -/
theorem readJsonUnits_jsonChar (c : Char) (x : List Char) :
    readJsonUnits (jsonChar c ++ x) =
      (readJsonUnits x).map fun r => (utf16Units c ++ r.1, r.2) := by
  rcases jsonChar_cases c with ⟨e, hescape, hc⟩ | ⟨hcontrol, hquote, hmark, hc⟩ | hc
  · rw [hc]
    exact readJsonUnits_escape hescape x
  · rw [hc]
    exact readJsonUnits_plain hcontrol hquote hmark x
  · rw [hc]
    exact readJsonUnits_flatMap_jsonUnit (utf16Units_lt c) x

theorem ofUtf16Units?_single (h : n < 0xD800 ∨ 0xDFFF < n ∧ n < 0x10000) (us : List Nat) :
    ofUtf16Units? (n :: us) = (ofUtf16Units? us).map (Char.ofNat n :: ·) := by
  rw [ofUtf16Units?.eq_def]
  exact if_pos h

theorem ofUtf16Units?_pair {m : Nat} (hn : 0xD800 ≤ n ∧ n < 0xDC00)
    (hm : 0xDC00 ≤ m ∧ m < 0xE000) (us : List Nat) :
    ofUtf16Units? (n :: m :: us) = (ofUtf16Units? us).map
      (Char.ofNat (0x10000 + (n - 0xD800) * 0x400 + (m - 0xDC00)) :: ·) := by
  rw [ofUtf16Units?, if_neg (by omega), if_pos (by omega)]

/-- The units of a character are put together to the character. -/
theorem ofUtf16Units?_append (c : Char) (us : List Nat) :
    ofUtf16Units? (utf16Units c ++ us) = (ofUtf16Units? us).map (c :: ·) := by
  have hvalid : c.toNat < 0xD800 ∨ 0xDFFF < c.toNat ∧ c.toNat < 0x110000 := c.valid
  by_cases hshort : c.toNat < 0x10000
  · rw [utf16Units, if_pos hshort, List.singleton_append, ofUtf16Units?_single (by omega),
      Char.ofNat_toNat]
  · have hjoined : 0x10000 + (0xD800 + (c.toNat - 0x10000) / 0x400 - 0xD800) * 0x400 +
        (0xDC00 + (c.toNat - 0x10000) % 0x400 - 0xDC00) = c.toNat := by
      omega
    rw [utf16Units, if_neg hshort, List.cons_append, List.singleton_append,
      ofUtf16Units?_pair (by omega) (by omega), hjoined, Char.ofNat_toNat]

end Characters

theorem readJsonUnits_flatMap (cs x : List Char) :
    readJsonUnits (cs.flatMap jsonChar ++ '"' :: x) = some (cs.flatMap utf16Units, x) := by
  induction cs with
  | nil => exact readJsonUnits_quote x
  | cons c cs ih =>
      rw [List.flatMap_cons, List.append_assoc, readJsonUnits_jsonChar, ih, Option.map_some,
        List.flatMap_cons]

theorem ofUtf16Units?_flatMap (cs : List Char) :
    ofUtf16Units? (cs.flatMap utf16Units) = some cs := by
  induction cs with
  | nil => rfl
  | cons c cs ih => rw [List.flatMap_cons, ofUtf16Units?_append, ih, Option.map_some]

/-- A text is read back from its string, whatever follows. -/
theorem readJsonString_jsonString (s : String) (x : List Char) :
    readJsonString ((jsonString s).toList ++ x) = some (s, x) := by
  have hchars : (jsonString s).toList ++ x = '"' :: (s.toList.flatMap jsonChar ++ '"' :: x) := by
    rw [jsonString, String.toList_ofList]
    simp
  rw [hchars, readJsonString, readJsonUnits_flatMap]
  simp [ofUtf16Units?_flatMap]

section Lines

theorem newline_notMem_jsonUnit (n : Nat) : '\n' ∉ jsonUnit n := by
  intro h
  have hdigit : '\n' ∈ hex 4 n := by simpa [jsonUnit] using h
  exact absurd (isSome_hexValue?_of_mem_hex hdigit) (by decide)

theorem newline_notMem_jsonChar (c : Char) : '\n' ∉ jsonChar c := by
  rcases jsonChar_cases c with ⟨e, hescape, hc⟩ | ⟨hcontrol, -, -, hc⟩ | hc
  · have hletters : ∀ p ∈ jsonEscapes, '\n' ∉ ['\\', p.1] := by decide
    rw [hc]
    exact hletters (e, c) hescape
  · rw [hc, List.mem_singleton]
    rintro rfl
    exact absurd hcontrol (by decide)
  · rw [hc, List.mem_flatMap]
    rintro ⟨n, -, hn⟩
    exact newline_notMem_jsonUnit n hn

/-- A string of JSON stays on one line. -/
theorem newline_notMem_jsonString (s : String) : '\n' ∉ (jsonString s).toList := by
  have hbody : '\n' ∉ s.toList.flatMap jsonChar := by
    rw [List.mem_flatMap]
    rintro ⟨c, -, hc⟩
    exact newline_notMem_jsonChar c hc
  rw [jsonString, String.toList_ofList]
  simpa using hbody

end Lines

end TableSchema.Text
