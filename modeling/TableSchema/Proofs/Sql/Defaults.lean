import TableSchema.Proofs.Number.Notation
import TableSchema.Proofs.Sql.Clauses
import TableSchema.Proofs.Sql.Constants
import TableSchema.Proofs.Sql.Writability

/-!
# What defaults denote

The text after the word `DEFAULT` is read as an operand of SQL: a string constant, a truth value, a
number with perhaps a sign, or the name of a column. Every constant but the floating point numbers
that are not finite is written as a constant that denotes it; those are written as bare words, which
name columns.
-/

namespace TableSchema

open Number

/-- The constant is no floating point number beyond the finite ones. -/
def Constant.isFinite : Constant → Bool
  | .float x => x.isFinite
  | .bool _ | .int _ | .text _ => true

namespace Sql

open Text Fragment

/-- What an operand of an expression stands for. -/
inductive Operand where
  | text (s : String)
  | truth (b : Bool)
  | number (negative : Bool) (numeral : Numeral)
  | column (negative : Bool) (name : String)
deriving DecidableEq, Repr

/-- The truth value that a word stands for, in any case of its letters. -/
def truthWord? (cs : List Char) : Option Bool :=
  if lowerAscii cs = "true".toList then some true
  else if lowerAscii cs = "false".toList then some false
  else none

/-- The first character of a word. -/
def isWordStart (c : Char) : Bool :=
  c.isAlpha || c == '_' || 128 ≤ c.toNat

/-- The characters are a word: a letter, and then letters, digits, underscores and dollar signs. -/
def isWord : List Char → Bool
  | [] => false
  | c :: cs => isWordStart c && cs.all fun d => isWordStart d || d.isDigit || d == '$'

/-- The operand that the characters spell from end to end. A word that is no truth value names a
column. -/
def readOperand (cs : List Char) : Option Operand :=
  match truthWord? cs with
  | some b => some (.truth b)
  | none =>
    match readConstant cs with
    | some (v, rest) => if rest.isEmpty then some (.text (String.ofList v)) else none
    | none =>
      match readSigned cs with
      | some (negative, n) => some (.number negative n)
      | none =>
        let (negative, name) := splitSign cs
        if isWord name && (truthWord? name).isNone then
          some (.column negative (String.ofList name))
        else none

namespace Operand

/-- The operand is the name of a column. -/
def isColumn : Operand → Bool
  | .column _ _ => true
  | .text _ | .truth _ | .number _ _ => false

/-- The operand is a constant of this value; a number with a point reads back as the floating point
number. -/
def Denotes : Operand → Constant → Prop
  | .text s, .text t => s = t
  | .truth a, .bool b => a = b
  | .number negative n, .int i => (if negative then -n.value else n.value) = i
  | .number negative n, .float x => n.ReadsAs negative x
  | _, _ => False

theorem isColumn_of_denotes {r : Operand} {v : Constant} (h : r.Denotes v) :
    r.isColumn = false := by
  cases r with
  | text s | truth b | number negative n => rfl
  | column negative name => cases v <;> cases h

theorem number_denotes_int (i : Int) :
    (number (decide (i < 0)) ⟨i.natAbs, 0⟩).Denotes (.int i) := by
  have hvalue : (⟨i.natAbs, 0⟩ : Numeral).value = ((|i| : Int) : ℚ) := by
    rw [Numeral.value, zpow_zero, mul_one, Nat.cast_natAbs]
  rw [Denotes, hvalue]
  by_cases hi : i < 0
  · rw [if_pos (decide_eq_true hi), abs_of_neg hi, Int.cast_neg, neg_neg]
  · rw [if_neg (by simpa using hi), abs_of_nonneg (not_lt.mp hi)]

end Operand

section Reading

variable {cs : List Char}

theorem truthWord?_eq_none {c : Char} (hc : cs.head? = some c)
    (htrue : c.toLower ≠ 't') (hfalse : c.toLower ≠ 'f') : truthWord? cs = none := by
  have hhead : (lowerAscii cs).head? = some c.toLower := by
    rw [lowerAscii, List.head?_map, hc, Option.map_some]
  have hne {w : List Char} {d : Char} (hw : w.head? = some d) (hd : c.toLower ≠ d) :
      lowerAscii cs ≠ w := by
    rintro rfl
    exact hd (Option.some.inj (hhead.symm.trans hw))
  rw [truthWord?, if_neg (hne rfl htrue), if_neg (hne rfl hfalse)]

theorem readConstant_eq_none {c : Char} (hc : cs.head? = some c) (hblank : isAsciiBlank c = false)
    (hquote : c ≠ '\'') (hmark : c ≠ 'E') : readConstant cs = none := by
  obtain ⟨ds, rfl⟩ := List.head?_eq_some_iff.mp hc
  rw [readConstant, List.dropWhile_cons_of_neg (by simp [hblank])]
  simp [hquote, hmark]

/-- A numeral begins with a sign, a point or a digit. -/
theorem exists_head_of_readSigned {r : Bool × Numeral} (h : readSigned cs = some r) :
    ∃ c, cs.head? = some c ∧ (c.isDigit = true ∨ c = '.' ∨ c = '-' ∨ c = '+') := by
  cases cs with
  | nil => cases h
  | cons c cs =>
      refine ⟨c, rfl, ?_⟩
      by_contra hnot
      push Not at hnot
      obtain ⟨hdigit, hpoint, hminus, hplus⟩ := hnot
      have hsign : splitSign (c :: cs) = (false, c :: cs) := by simp [splitSign, hminus, hplus]
      have hnone : readNumeral (c :: cs) = none := by
        simp [readNumeral, hdigit, splitFraction, hpoint]
      simp [readSigned, hsign, hnone] at h

/-- A numeral is read as a number: it neither is a truth value nor begins as a string constant. -/
theorem readOperand_of_readSigned {negative : Bool} {n : Numeral}
    (h : readSigned cs = some (negative, n)) :
    readOperand cs = some (.number negative n) := by
  obtain ⟨c, hc, hkind⟩ := exists_head_of_readSigned h
  have hchar : c.toLower ≠ 't' ∧ c.toLower ≠ 'f' ∧ isAsciiBlank c = false ∧ c ≠ '\'' ∧
      c ≠ 'E' := by
    rcases hkind with hdigit | rfl | rfl | rfl
    · rw [toLower_of_isDigit hdigit]
      exact ⟨ne_of_isDigit hdigit (by decide), ne_of_isDigit hdigit (by decide),
        isAsciiBlank_of_isDigit hdigit, ne_of_isDigit hdigit (by decide),
        ne_of_isDigit hdigit (by decide)⟩
    · decide
    · decide
    · decide
  obtain ⟨htrue, hfalse, hblank, hquote, hmark⟩ := hchar
  have hword := truthWord?_eq_none hc htrue hfalse
  have hconstant := readConstant_eq_none hc hblank hquote hmark
  simp [readOperand, hword, hconstant, h]

/-- A string constant is read as its text. -/
theorem readOperand_literalChars (cs : List Char) :
    readOperand (literalChars cs) = some (.text (String.ofList cs)) := by
  have hread : readConstant (literalChars cs) = some (cs, []) := by
    simpa using readConstant_literalChars (x := []) cs (by simp)
  have hword : truthWord? (literalChars cs) = none := by
    rcases head_literalChars cs with h | h
    · exact truthWord?_eq_none h (by decide) (by decide)
    · exact truthWord?_eq_none h (by decide) (by decide)
  simp [readOperand, hword, hread]

end Reading

/-- A whole number is read back. -/
theorem readSigned_toString (i : Int) :
    readSigned (toString i).toList = some (decide (i < 0), ⟨i.natAbs, 0⟩) := by
  have hdigits (n : Nat) : (toString n).toList = Nat.toDigits 10 n := by
    rw [Nat.toString_eq_ofList_toDigits, String.toList_ofList]
  cases i with
  | ofNat n =>
      have hread := readSigned_append false (readNumeral_toDigits n)
      rw [← hdigits] at hread
      exact hread
  | negSucc n =>
      have hread := readSigned_append true (readNumeral_toDigits (n + 1))
      have hnegative : decide (Int.negSucc n < 0) = true :=
        decide_eq_true (Int.negSucc_lt_zero n)
      rw [← hdigits] at hread
      rw [toList_toString_negSucc, hnegative]
      exact hread

section Constants

variable {v : Constant} {text : String}
  (h : (defaultExpression (.literal v) >>= Fragment.text) = .ok text)

include h

/-- A finite constant is written as a constant that denotes it. -/
theorem exists_denotes (hv : v.isFinite = true) :
    ∃ r, readOperand text.toList = some r ∧ r.Denotes v := by
  obtain ⟨f, hf, htext⟩ := bind_eq_ok_iff.mp h
  rw [Fragment.toList_of_text htext]
  cases v with
  | bool b =>
      obtain rfl := Except.ok.inj hf
      exact ⟨.truth b, by cases b <;> rfl, rfl⟩
  | text s =>
      obtain rfl := Except.ok.inj hf
      exact ⟨.text s, by rw [chars_literal, readOperand_literalChars, String.ofList_toList], rfl⟩
  | int i =>
      obtain rfl : f = verbatim (toString i) := by
        simpa [defaultFragments, constantFragment] using defaultExpression_eq hf
      exact ⟨_, readOperand_of_readSigned (readSigned_toString i), Operand.number_denotes_int i⟩
  | float x =>
      obtain rfl := Except.ok.inj hf
      cases x with
      | nan => cases hv
      | infinity negative => cases hv
      | finite negative m e hcanonical =>
          obtain ⟨n, hn, hreads⟩ := exists_readSigned_chars negative hcanonical
          refine ⟨.number negative n, ?_, hreads⟩
          rw [chars_verbatim, Binary64.text, String.toList_ofList]
          exact readOperand_of_readSigned hn

/-- A floating point number that is not finite is written as the name of a column. -/
theorem exists_column (hv : v.isFinite = false) :
    ∃ negative name, readOperand text.toList = some (.column negative name) := by
  cases v with
  | bool b => cases hv
  | int i => cases hv
  | text s => cases hv
  | float x =>
      obtain rfl := Except.ok.inj h
      cases x with
      | nan => exact ⟨false, "nan", rfl⟩
      | infinity negative => exact ⟨negative, "inf", by cases negative <;> rfl⟩
      | finite negative m e hcanonical => cases hv

end Constants

/-- The line of a column ends with its default after the line that it has without one. If the
default is a constant that can be written, then it is read as one operand: as a constant of that
value exactly if the value is finite, and otherwise as the name of a column. -/
theorem columnDefinition_default_denotes_iff (p : IdentifierPolicy) {c : Column} {v : Constant}
    (hc : c.IsWritable) (hv : c.default = some (.literal v)) :
    ∃ front text,
      (columnDefinition p { c with default := none } >>= render) = .ok front ∧
      (columnDefinition p c >>= render) = .ok (front ++ " DEFAULT " ++ text) ∧
      ∃ r, readOperand text.toList = some r ∧ (r.Denotes v ↔ v.isFinite = true) ∧
        (r.isColumn = true ↔ v.isFinite = false) := by
  have hdefault : (ColumnDefault.literal v).IsWritable := hc.2 _ hv
  obtain ⟨f, hf, hwritable⟩ := exists_defaultExpression_iff.mpr hdefault
  obtain ⟨text, htext⟩ := exists_text_iff.mpr hwritable
  have hread : (defaultExpression (.literal v) >>= Fragment.text) = .ok text :=
    bind_eq_ok_iff.mpr ⟨f, hf, htext⟩
  obtain ⟨n, hn⟩ := Option.isSome_iff_exists.mp hc.1
  obtain ⟨front, hfront⟩ := exists_render_iff.mpr (areWritable_columnFront (p := p) n c)
  have hplain : columnDefinition p { c with default := none } = .ok (columnFront p n c) := by
    have hmap := columnDefinition_eq_map (p := p) (c := { c with default := none }) hn
    rw [hmap, defaultClause, Except.map, List.append_nil]
    rfl
  have hline : columnDefinition p c = .ok (columnFront p n c ++ [verbatim " DEFAULT ", f]) := by
    rw [columnDefinition_eq_map hn, hv, defaultClause, hf]
    rfl
  refine ⟨front, text, bind_eq_ok_iff.mpr ⟨_, hplain, hfront⟩, ?_, ?_⟩
  · have hclause : render [verbatim " DEFAULT ", f] = .ok (" DEFAULT " ++ text) :=
      render_append (render_singleton rfl) (render_singleton htext)
    rw [String.append_assoc]
    exact bind_eq_ok_iff.mpr ⟨_, hline, render_append hfront hclause⟩
  · cases hfinite : v.isFinite with
    | true =>
        obtain ⟨r, hr, hdenotes⟩ := exists_denotes hread hfinite
        exact ⟨r, hr, by simp [hdenotes], by simp [Operand.isColumn_of_denotes hdenotes]⟩
    | false =>
        obtain ⟨negative, name, hr⟩ := exists_column hread hfinite
        exact ⟨_, hr, by simp [Operand.Denotes], by simp [Operand.isColumn]⟩

end Sql

namespace Sample

/-- A ten millionth with a minus sign. -/
def smallFloat : Binary64 :=
  .finite true 7555786372591432 (-76) (by decide)

/-- A rate with a small default. -/
def rate : Column :=
  ⟨.text "rate", .scalar .double, true, some (.literal (.float smallFloat))⟩

/-- A quota that is infinite unless it is given. -/
def quota : Column :=
  ⟨.text "quota", .scalar .double, true, some (.literal (.float (.infinity false)))⟩

end Sample

namespace Sql

theorem rate_default_denotes :
    Sample.rate.IsWritable ∧ Sample.rate.default = some (.literal (.float Sample.smallFloat)) ∧
      (columnDefinition .bare Sample.rate >>= render) =
        .ok "rate DOUBLE PRECISION DEFAULT -1e-07" ∧
      ∃ r, readOperand "-1e-07".toList = some r ∧ r.Denotes (.float Sample.smallFloat) := by
  have hwritable : Sample.rate.IsWritable := by decide
  have hline : (columnDefinition .bare Sample.rate >>= render) =
      .ok "rate DOUBLE PRECISION DEFAULT -1e-07" := by
    decide +kernel
  obtain ⟨front, text, hfront, htext, r, hr, hdenotes, -⟩ :=
    columnDefinition_default_denotes_iff .bare hwritable rfl
  obtain rfl : "rate DOUBLE PRECISION" = front := by
    have hcomputed : (columnDefinition .bare { Sample.rate with default := none } >>= render) =
        .ok "rate DOUBLE PRECISION" := by
      decide +kernel
    exact Except.ok.inj (hcomputed.symm.trans hfront)
  have hsame := congrArg String.toList (Except.ok.inj (hline.symm.trans htext))
  have hchars : "-1e-07".toList = text.toList := by simpa using hsame
  exact ⟨hwritable, rfl, hline, r, hchars ▸ hr, hdenotes.mpr (by decide)⟩

/-- An infinite default is written as a bare word, which is no constant. -/
theorem quota_default_names_column :
    Sample.quota.IsWritable ∧
      (columnDefinition .bare Sample.quota >>= render) =
        .ok "quota DOUBLE PRECISION DEFAULT inf" ∧
      readOperand "inf".toList = some (.column false "inf") ∧
      ∀ v, ¬ (Operand.column false "inf").Denotes v := by
  refine ⟨by decide, by decide +kernel, by decide +kernel, ?_⟩
  rintro (b | i | x | s) h <;> cases h

end Sql

end TableSchema
