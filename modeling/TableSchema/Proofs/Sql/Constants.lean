import TableSchema.Proofs.Sql.Spelling
import TableSchema.Sql.Clause
import TableSchema.Text.Blank

/-!
# String constants read back

The reader takes the two forms of string constants: plain ones, in which a quote stands twice, and
those that an `E` marks as escaped, in which a backslash stands twice too. A quote that stands alone
ends the constant. A list of constants ends at a closing parenthesis and has commas between its
constants, with blanks around them. The values of an enumeration are read back in their order from
the statement that creates it, whatever characters they hold.
-/

namespace TableSchema.Sql

open Text Fragment

/-- The character stands twice inside a constant. -/
def isMark (escaped : Bool) (c : Char) : Bool :=
  c == '\'' || (escaped && c == '\\')

/-- The characters of a constant up to its closing quote, and what follows it. -/
def readConstantBody (escaped : Bool) : List Char → Option (List Char × List Char)
  | [] => none
  | c :: cs =>
    if isMark escaped c then
      match cs with
      | [] => if c = '\'' then some ([], []) else none
      | d :: ds =>
        if d = c then (readConstantBody escaped ds).map fun r => (c :: r.1, r.2)
        else if c = '\'' then some ([], d :: ds)
        else none
    else (readConstantBody escaped cs).map fun r => (c :: r.1, r.2)

/-- The characters of a constant after blanks, and what follows it. -/
def readConstant (cs : List Char) : Option (List Char × List Char) :=
  match cs.dropWhile isAsciiBlank with
  | '\'' :: ds => readConstantBody false ds
  | 'E' :: '\'' :: ds => readConstantBody true ds
  | _ => none

section Progress

variable {escaped : Bool} {cs v rest : List Char}

theorem length_lt_of_readConstantBody (h : readConstantBody escaped cs = some (v, rest)) :
    rest.length < cs.length := by
  fun_induction readConstantBody escaped cs generalizing v rest with
  | case1 | case3 | case6 => cases h
  | case2 | case5 =>
      obtain ⟨-, rfl⟩ := Prod.mk.injEq .. ▸ Option.some.inj h
      simp
  | case4 c ds hmark ih | case7 c ds hmark ih =>
      obtain ⟨⟨v', rest'⟩, hbody, hr⟩ := Option.map_eq_some_iff.mp h
      obtain ⟨-, rfl⟩ := Prod.mk.injEq .. ▸ hr
      have := ih hbody
      simp only [List.length_cons]
      omega

theorem length_lt_of_readConstant (h : readConstant cs = some (v, rest)) :
    rest.length < cs.length := by
  have hle : (cs.dropWhile isAsciiBlank).length ≤ cs.length :=
    (List.dropWhile_sublist _).length_le
  rw [readConstant] at h
  split at h
  · rename_i hchars
    have := length_lt_of_readConstantBody h
    rw [hchars, List.length_cons] at hle
    omega
  · rename_i hchars
    have := length_lt_of_readConstantBody h
    rw [hchars, List.length_cons, List.length_cons] at hle
    omega
  · cases h

end Progress

/-- The constants of a list up to its closing parenthesis, and what follows it. -/
def readConstants (cs : List Char) : Option (List (List Char) × List Char) :=
  match _ : readConstant cs with
  | none => none
  | some (v, rest) =>
    match _ : rest.dropWhile isAsciiBlank with
    | ',' :: more => (readConstants more).map fun r => (v :: r.1, r.2)
    | ')' :: more => some ([v], more)
    | _ => none
termination_by cs.length
decreasing_by
  have hrest : rest.length < cs.length := length_lt_of_readConstant ‹_›
  have hmore : (',' :: more).length ≤ rest.length :=
    ‹rest.dropWhile isAsciiBlank = ',' :: more› ▸ (List.dropWhile_sublist _).length_le
  rw [List.length_cons] at hmore
  omega

/-- The values in the statement that creates an enumeration of this name. -/
def readEnumValues (name : Fragment) (statement : String) : Option (List String) := do
  let list ← statement.toList.dropPrefix? ("CREATE TYPE ".toList ++ name.chars ++
    " AS ENUM (".toList)
  let r ← readConstants list
  if r.2 = [';'] then some (r.1.map String.ofList) else none

section Bodies

variable {escaped : Bool} {c : Char}

theorem readConstantBody_close {x : List Char} (hx : x.head? ≠ some '\'') :
    readConstantBody escaped ('\'' :: x) = some ([], x) := by
  cases x with
  | nil => rfl
  | cons d ds =>
      have hd : d ≠ '\'' := by simpa using hx
      have hmark : isMark escaped '\'' = true := rfl
      rw [readConstantBody, if_pos hmark, if_neg hd, if_pos rfl]

theorem readConstantBody_mark (h : isMark escaped c = true) (x : List Char) :
    readConstantBody escaped (c :: c :: x) =
      (readConstantBody escaped x).map fun r => (c :: r.1, r.2) := by
  rw [readConstantBody, if_pos h, if_pos rfl]

theorem readConstantBody_plain (h : isMark escaped c = false) (x : List Char) :
    readConstantBody escaped (c :: x) =
      (readConstantBody escaped x).map fun r => (c :: r.1, r.2) := by
  rw [readConstantBody.eq_def]
  simp only [h, Bool.false_eq_true, if_false]

/-- A body in which the marks stand twice is read back. -/
theorem readConstantBody_flatMap (escaped : Bool) (cs : List Char) {x : List Char}
    (hx : x.head? ≠ some '\'') :
    readConstantBody escaped
        (cs.flatMap (fun c => if isMark escaped c then [c, c] else [c]) ++ '\'' :: x) =
      some (cs, x) := by
  induction cs with
  | nil => exact readConstantBody_close hx
  | cons c cs ih =>
      rw [List.flatMap_cons, List.append_assoc]
      cases hmark : isMark escaped c with
      | true =>
          rw [if_pos rfl, List.cons_append, List.singleton_append, readConstantBody_mark hmark, ih,
            Option.map_some]
      | false =>
          rw [if_neg Bool.false_ne_true, List.singleton_append, readConstantBody_plain hmark, ih,
            Option.map_some]

theorem doubled_doubled (cs : List Char) :
    doubled '\\' (doubled '\'' cs) =
      cs.flatMap fun c => if isMark true c then [c, c] else [c] := by
  rw [doubled, doubled, List.flatMap_assoc]
  congr 1
  funext c
  by_cases hquote : c = '\''
  · subst hquote
    rfl
  · simp [isMark, hquote]

theorem doubled_quote (cs : List Char) :
    doubled '\'' cs = cs.flatMap fun c => if isMark false c then [c, c] else [c] := by
  simp [doubled, isMark]

end Bodies

section Lists

variable {blanks cs v more x : List Char}

theorem readConstant_append (h : ∀ b ∈ blanks, isAsciiBlank b = true) (cs : List Char) :
    readConstant (blanks ++ cs) = readConstant cs := by
  rw [readConstant, readConstant, List.dropWhile_append_of_pos h]

/-- A constant ends before what is no quote. -/
theorem readConstant_literalChars (cs : List Char) (hx : x.head? ≠ some '\'') :
    readConstant (literalChars cs ++ x) = some (cs, x) := by
  by_cases h : '\\' ∈ cs
  · have hread : readConstant (literalChars cs ++ x) =
        readConstantBody true (doubled '\\' (doubled '\'' cs) ++ '\'' :: x) := by
      rw [literalChars, if_pos h, List.append_cons]
      simp [readConstant, isAsciiBlank]
    rw [hread, doubled_doubled, readConstantBody_flatMap true cs hx]
  · have hread : readConstant (literalChars cs ++ x) =
        readConstantBody false (doubled '\'' cs ++ '\'' :: x) := by
      rw [literalChars, if_neg h]
      simp [readConstant, isAsciiBlank]
    rw [hread, doubled_quote, readConstantBody_flatMap false cs hx]

theorem readConstants_comma (h : readConstant cs = some (v, ',' :: more)) :
    readConstants cs = (readConstants more).map fun r => (v :: r.1, r.2) := by
  rw [readConstants]
  split
  · rename_i hnone
    rw [h] at hnone
    cases hnone
  · rename_i hread
    obtain ⟨rfl, rfl⟩ := Prod.mk.injEq .. ▸ Option.some.inj (h.symm.trans hread)
    rfl

theorem readConstants_close (h : readConstant cs = some (v, ')' :: more)) :
    readConstants cs = some ([v], more) := by
  rw [readConstants]
  split
  · rename_i hnone
    rw [h] at hnone
    cases hnone
  · rename_i hread
    obtain ⟨rfl, rfl⟩ := Prod.mk.injEq .. ▸ Option.some.inj (h.symm.trans hread)
    rfl

/-- Constants with commas between them are read back up to the closing parenthesis. -/
theorem readConstants_flatMap (v : List Char) (vs : List (List Char))
    (hblanks : ∀ b ∈ blanks, isAsciiBlank b = true) (x : List Char) :
    readConstants (blanks ++ (literalChars v ++
        (vs.flatMap (fun w => [',', ' '] ++ literalChars w) ++ ')' :: x))) =
      some (v :: vs, x) := by
  induction vs generalizing v blanks with
  | nil =>
      apply readConstants_close
      rw [readConstant_append hblanks]
      exact readConstant_literalChars v (by simp)
  | cons w vs ih =>
      have hread : readConstant (blanks ++ (literalChars v ++
          ((w :: vs).flatMap (fun w => [',', ' '] ++ literalChars w) ++ ')' :: x))) =
            some (v, ',' :: ([' '] ++ (literalChars w ++
              (vs.flatMap (fun w => [',', ' '] ++ literalChars w) ++ ')' :: x)))) := by
        rw [readConstant_append hblanks, readConstant_literalChars v (by simp)]
        simp
      rw [readConstants_comma hread, ih w (by simp [isAsciiBlank]), Option.map_some]

end Lists

/-- The constants of an enumeration, with a comma and a space between them. -/
theorem spelling_enumValues (vs : List String) :
    spelling (enumValues vs) = [',', ' '].intercalate (vs.map fun v => literalChars v.toList) := by
  have hseparator : (", " : String).toList = [',', ' '] := rfl
  rw [enumValues, spelling_joinWith, hseparator, List.map_map]
  simp [Function.comp_def]

theorem readConstants_enumValues {vs : List String} (hvs : vs ≠ []) (x : List Char) :
    readConstants (spelling (enumValues vs) ++ ')' :: x) = some (vs.map String.toList, x) := by
  obtain ⟨v, rest, rfl⟩ := List.exists_cons_of_ne_nil hvs
  have hread := @readConstants_flatMap [] v.toList (rest.map String.toList) (by simp) x
  rw [spelling_enumValues, List.map_cons, intercalate_cons_eq]
  simpa [List.flatMap_map] using hread

theorem spelling_createEnum (name : Fragment) (vs : List String) :
    spelling (createEnum name vs) = "CREATE TYPE ".toList ++ (name.chars ++
      (" AS ENUM (".toList ++ (spelling (enumValues vs) ++ ");".toList))) := by
  simp [createEnum]

/-- The values of an enumeration are read back from the statement that creates it. -/
theorem readEnumValues_eq {name : Fragment} {vs : List String} (hvs : vs ≠ [])
    {statement : String} (h : statement.toList = spelling (createEnum name vs)) :
    readEnumValues name statement = some vs := by
  have hfront : statement.toList = ("CREATE TYPE ".toList ++ name.chars ++ " AS ENUM (".toList) ++
      (spelling (enumValues vs) ++ ");".toList) := by
    rw [h, spelling_createEnum]
    simp only [List.append_assoc]
  have hlist : readConstants (spelling (enumValues vs) ++ ");".toList) =
      some (vs.map String.toList, [';']) :=
    readConstants_enumValues hvs [';']
  rw [readEnumValues, hfront, dropPrefix?_append, Option.bind_eq_bind, Option.bind_some, hlist]
  simp [Function.comp_def]

end TableSchema.Sql
