import TableSchema.Proofs.Outcomes
import TableSchema.Proofs.Text.Unambiguous
import TableSchema.Sql.Fragment

/-!
# How fragments are spelled

A statement that can be written is spelled by its fragments one after the other. Identifiers and
string constants hold any characters and are told apart all the same: a quote ends them if it does
not stand twice, whatever the characters before it.
-/

namespace TableSchema.Sql

open Text

/-- The characters of a fragment. -/
def Fragment.chars : Fragment → List Char
  | .verbatim s => s.toList
  | .identifier s => identifierChars s.toList
  | .literal s => literalChars s.toList

namespace Fragment

@[simp] theorem chars_verbatim (s : String) : (verbatim s).chars = s.toList := rfl

@[simp] theorem chars_identifier (s : String) : (identifier s).chars = identifierChars s.toList :=
  rfl

@[simp] theorem chars_literal (s : String) : (literal s).chars = literalChars s.toList := rfl

end Fragment

/-- The characters of fragments one after the other. -/
def spelling (fs : Fragments) : List Char :=
  fs.flatMap Fragment.chars

@[simp] theorem spelling_nil : spelling [] = [] := rfl

@[simp] theorem spelling_cons (f : Fragment) (fs : Fragments) :
    spelling (f :: fs) = f.chars ++ spelling fs := rfl

@[simp] theorem spelling_append (fs gs : Fragments) :
    spelling (fs ++ gs) = spelling fs ++ spelling gs :=
  List.flatMap_append

theorem spelling_joinWith (separator : String) (parts : List Fragments) :
    spelling (joinWith separator parts) = separator.toList.intercalate (parts.map spelling) := by
  rw [joinWith]
  cases parts with
  | nil => rfl
  | cons part parts =>
      induction parts generalizing part with
      | nil => simp
      | cons p ps ih =>
          rw [List.intercalate_cons_cons, spelling_append, spelling_append, ih]
          simp only [spelling_cons, spelling_nil, Fragment.chars, List.map_cons,
            List.intercalate_cons_cons, List.append_nil]

theorem Fragment.toList_of_text {f : Fragment} {t : String} (h : f.text = .ok t) :
    t.toList = f.chars := by
  cases f with
  | verbatim s => rw [← Except.ok.inj h, chars]
  | identifier s => rw [← Except.ok.inj h, String.toList_ofList, chars]
  | literal s =>
      by_cases hnul : '\x00' ∈ s.toList
      · simp [Fragment.text, hnul] at h
      · rw [Fragment.text, if_neg hnul] at h
        rw [← Except.ok.inj h, String.toList_ofList, chars]

theorem render_eq (fs : Fragments) :
    render fs = (fs.mapM Fragment.text).map String.join := rfl

theorem render_singleton {f : Fragment} {t : String} (h : f.text = .ok t) :
    render [f] = .ok t := by
  have hparts : [f].mapM Fragment.text = .ok [t] :=
    mapM_eq_ok_iff.mpr (List.Forall₂.cons h List.Forall₂.nil)
  rw [render_eq, hparts]
  exact congrArg Except.ok (String.toList_inj.mp (by simp))

/-- Fragments are written one after the other. -/
theorem render_append {fs gs : Fragments} {s t : String} (hfs : render fs = .ok s)
    (hgs : render gs = .ok t) : render (fs ++ gs) = .ok (s ++ t) := by
  rw [render_eq, map_eq_ok_iff] at hfs hgs ⊢
  obtain ⟨ss, hss, rfl⟩ := hfs
  obtain ⟨ts, hts, rfl⟩ := hgs
  refine ⟨ss ++ ts, ?_, ?_⟩
  · rw [List.mapM_append, hss, hts]
    rfl
  · rw [← String.toList_inj]
    simp [String.toList_join]

/-- What is rendered is spelled by the fragments. -/
theorem toList_of_render {fs : Fragments} {t : String} (h : render fs = .ok t) :
    t.toList = spelling fs := by
  rw [render_eq, map_eq_ok_iff] at h
  obtain ⟨parts, hparts, rfl⟩ := h
  rw [String.toList_join]
  have hall := mapM_eq_ok_iff.mp hparts
  clear hparts
  induction hall with
  | nil => rfl
  | cons hpart _ ih => rw [List.flatMap_cons, spelling_cons, Fragment.toList_of_text hpart, ih]

section Quotes

theorem doubled_cons_self (c : Char) (cs : List Char) :
    doubled c (c :: cs) = c :: c :: doubled c cs := by
  simp [doubled]

theorem doubled_cons_of_ne {c d : Char} (h : d ≠ c) (cs : List Char) :
    doubled c (d :: cs) = d :: doubled c cs := by
  simp [doubled, h]

theorem cons_ne_doubled_append {c b : Char} {bs x y : List Char} (hx : x.head? ≠ some c) :
    c :: x ≠ doubled c (b :: bs) ++ c :: y := by
  intro h
  by_cases hb : b = c
  · subst hb
    rw [doubled_cons_self, List.cons_append, List.cons_append] at h
    rw [(List.cons_eq_cons.mp h).2] at hx
    exact hx rfl
  · rw [doubled_cons_of_ne hb, List.cons_append] at h
    exact hb (List.cons_eq_cons.mp h).1.symm

/-- A quote that does not stand twice ends the characters before it. -/
theorem doubled_append_cancel {c : Char} {as bs x y : List Char} (hx : x.head? ≠ some c)
    (hy : y.head? ≠ some c) (h : doubled c as ++ c :: x = doubled c bs ++ c :: y) :
    as = bs ∧ x = y := by
  induction as generalizing bs with
  | nil =>
      cases bs with
      | nil => exact ⟨rfl, (List.cons_eq_cons.mp h).2⟩
      | cons b bs => exact absurd h (cons_ne_doubled_append hx)
  | cons a as ih =>
      cases bs with
      | nil => exact absurd h.symm (cons_ne_doubled_append hy)
      | cons b bs =>
          have hab : a = b := by
            by_cases ha : a = c <;> by_cases hb : b = c <;>
              simp_all [doubled_cons_self, doubled_cons_of_ne]
          subst hab
          have hrest : doubled c as ++ c :: x = doubled c bs ++ c :: y := by
            by_cases ha : a = c
            · simpa [ha, doubled_cons_self] using h
            · simpa [doubled_cons_of_ne ha] using h
          obtain ⟨htail, hxy⟩ := ih hrest
          exact ⟨congrArg (a :: ·) htail, hxy⟩

theorem doubled_injective (c : Char) : Function.Injective (doubled c) := by
  intro as bs h
  have h' : doubled c as ++ [c] = doubled c bs ++ [c] := by rw [h]
  exact (doubled_append_cancel (by simp) (by simp) h').1

theorem doubled_comm {c d : Char} (h : c ≠ d) (cs : List Char) :
    doubled c (doubled d cs) = doubled d (doubled c cs) := by
  induction cs with
  | nil => rfl
  | cons b bs ih =>
      by_cases hc : b = c
      · subst hc
        rw [doubled_cons_self, doubled_cons_of_ne h, doubled_cons_self, ih, doubled_cons_of_ne h,
          doubled_cons_of_ne h]
      · by_cases hd : b = d
        · subst hd
          rw [doubled_cons_self, doubled_cons_of_ne hc, doubled_cons_of_ne hc,
            doubled_cons_of_ne hc, doubled_cons_self, ih]
        · rw [doubled_cons_of_ne hd, doubled_cons_of_ne hc, doubled_cons_of_ne hc,
            doubled_cons_of_ne hd, ih]

/-- An identifier ends before what is no double quote. -/
theorem unambiguous_identifier :
    Unambiguous (fun _ : String => True) (fun s => identifierChars s.toList) id
      (·.head? ≠ some '"') := by
  intro a b x y _ _ hx hy h
  simp only [identifierChars, List.cons_append, List.append_assoc, List.nil_append] at h
  obtain ⟨hab, hxy⟩ := doubled_append_cancel hx hy (List.cons_eq_cons.mp h).2
  exact ⟨String.toList_inj.mp hab, hxy⟩

theorem literalChars_of_mem {cs : List Char} (h : '\\' ∈ cs) :
    literalChars cs = ' ' :: 'E' :: '\'' :: (doubled '\'' (doubled '\\' cs) ++ ['\'']) := by
  rw [literalChars, if_pos h, doubled_comm (by decide)]

theorem literalChars_of_notMem {cs : List Char} (h : '\\' ∉ cs) :
    literalChars cs = '\'' :: (doubled '\'' cs ++ ['\'']) := by
  rw [literalChars, if_neg h]

/-- A string constant ends before what is no quote; whether it is escaped shows at its beginning. -/
theorem unambiguous_literal :
    Unambiguous (fun _ : String => True) (fun s => literalChars s.toList) id
      (·.head? ≠ some '\'') := by
  intro a b x y _ _ hx hy h
  dsimp only at h
  by_cases ha : '\\' ∈ a.toList <;> by_cases hb : '\\' ∈ b.toList
  · rw [literalChars_of_mem ha, literalChars_of_mem hb] at h
    simp only [List.cons_append, List.append_assoc, List.nil_append, List.cons.injEq,
      true_and] at h
    obtain ⟨hab, hxy⟩ := doubled_append_cancel hx hy h
    exact ⟨String.toList_inj.mp (doubled_injective '\\' hab), hxy⟩
  · rw [literalChars_of_mem ha, literalChars_of_notMem hb] at h
    exact absurd (List.cons_eq_cons.mp h).1 (by decide)
  · rw [literalChars_of_notMem ha, literalChars_of_mem hb] at h
    exact absurd (List.cons_eq_cons.mp h).1 (by decide)
  · rw [literalChars_of_notMem ha, literalChars_of_notMem hb] at h
    simp only [List.cons_append, List.append_assoc, List.nil_append, List.cons.injEq,
      true_and] at h
    obtain ⟨hab, hxy⟩ := doubled_append_cancel hx hy h
    exact ⟨String.toList_inj.mp hab, hxy⟩

end Quotes

section Numerals

/-- A natural number ends before what is no digit. -/
theorem unambiguous_nat :
    Unambiguous (fun _ : Nat => True) (fun n => (toString n).toList) id
      fun x => ∀ c ∈ x.head?, c.isDigit = false := by
  refine unambiguous_of_run Char.isDigit ?_ ?_
  · intro n _ c hc
    rw [Nat.toString_eq_ofList_toDigits, String.toList_ofList] at hc
    exact Nat.isDigit_of_mem_toDigits (by decide) (by decide) hc
  · intro m n _ _ h
    rw [Nat.toString_eq_ofList_toDigits, Nat.toString_eq_ofList_toDigits, String.toList_ofList,
      String.toList_ofList] at h
    have hvalue := congrArg (Nat.ofDigitChars 10 · 0) h
    simpa [Nat.ofDigitChars_ten_toDigits] using hvalue

theorem toList_toString_negSucc (n : Nat) :
    (toString (Int.negSucc n)).toList = '-' :: (toString (n + 1)).toList := by
  have h : toString (Int.negSucc n) = "-" ++ toString (n + 1) := rfl
  rw [h, String.toList_append]
  rfl

theorem exists_head_toString_nat (n : Nat) :
    ∃ c cs, (toString n).toList = c :: cs ∧ c.isDigit = true := by
  have hdigits : (toString n).toList = Nat.toDigits 10 n := by
    rw [Nat.toString_eq_ofList_toDigits, String.toList_ofList]
  obtain ⟨c, cs, hcs⟩ := List.exists_cons_of_ne_nil (@Nat.toDigits_ne_nil n 10)
  refine ⟨c, cs, hdigits.trans hcs, ?_⟩
  exact Nat.isDigit_of_mem_toDigits (by decide) (by decide) (hcs ▸ List.mem_cons_self)

/-- A minus sign in front does not change where a numeral ends. -/
theorem unambiguous_int :
    Unambiguous (fun _ : Int => True) (fun n => (toString n).toList) id
      fun x => ∀ c ∈ x.head?, c.isDigit = false := by
  -- The sign shows at the beginning: no digit is a minus sign.
  have hsign (m n : Nat) (x y : List Char) :
      (toString m).toList ++ x ≠ '-' :: (toString n).toList ++ y := by
    obtain ⟨c, cs, hcs, hc⟩ := exists_head_toString_nat m
    intro h
    rw [hcs] at h
    obtain rfl : c = '-' := (List.cons_eq_cons.mp h).1
    exact absurd hc (by decide)
  intro a b x y _ _ hx hy h
  dsimp only at h
  cases a with
  | ofNat m =>
      cases b with
      | ofNat n =>
          obtain ⟨hmn, hxy⟩ := unambiguous_nat trivial trivial hx hy h
          exact ⟨congrArg Int.ofNat hmn, hxy⟩
      | negSucc n =>
          rw [toList_toString_negSucc] at h
          exact absurd h (hsign _ _ _ _)
  | negSucc m =>
      rw [toList_toString_negSucc] at h
      cases b with
      | ofNat n => exact absurd h.symm (hsign _ _ _ _)
      | negSucc n =>
          rw [toList_toString_negSucc] at h
          obtain ⟨hmn, hxy⟩ :=
            unambiguous_nat trivial trivial hx hy (List.cons_eq_cons.mp h).2
          exact ⟨congrArg Int.negSucc (Nat.succ.inj hmn), hxy⟩

end Numerals

end TableSchema.Sql
