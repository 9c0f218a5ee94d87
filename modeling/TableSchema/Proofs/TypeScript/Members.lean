import TableSchema.Proofs.Text.JsonReading
import TableSchema.Proofs.Text.Unambiguous
import TableSchema.Proofs.TypeScript.Identifier
import TableSchema.TypeScript

/-!
# Declarations of enumerations read back

The declaration of an enumeration is read line by line: a header with the name of the type, then a
member on each line, which is an identifier with a string of JSON, then a closing brace. Line breaks
inside values are escaped and so do not end a line. Every declaration is read back whose names have
letters or digits of ASCII: as the name of the type, and the values with the names of their members.
-/

namespace TableSchema.TypeScript

open Text

/-- The identifier at the beginning, and what follows it. -/
def readIdentifier (w : WideLetters) : List Char → Option (String × List Char)
  | [] => none
  | c :: cs =>
    if w.begins c then
      some (String.ofList (c :: cs.takeWhile w.continues), cs.dropWhile w.continues)
    else none

/-- The name of the type that a header declares. -/
def readHeader (w : WideLetters) (line : List Char) : Option String := do
  let r ← readIdentifier w (← line.dropPrefix? "export enum ".toList)
  if r.2 = [' ', '\x7b'] then some r.1 else none

/-- The name and the value of the member that a line declares. -/
def readMember (w : WideLetters) (line : List Char) : Option (String × String) := do
  let r ← readIdentifier w (line.dropWhile (· == ' '))
  let v ← readJsonString (← r.2.dropPrefix? " = ".toList)
  if v.2 = [','] then some (r.1, v.1) else none

/-- The members on the lines up to a closing brace, which is the last line. -/
def readMembers (w : WideLetters) : List (List Char) → Option (List (String × String))
  | [] => none
  | line :: lines =>
    if line = ['\x7d'] then if lines = [] then some [] else none
    else do
      let m ← readMember w line
      let ms ← readMembers w lines
      return m :: ms

/-- The name of the type and the members in the declaration of an enumeration. -/
def readEnum (w : WideLetters) (text : String) : Option (String × List (String × String)) :=
  match text.toList.splitOn '\n' with
  | [] => none
  | header :: lines => do
    let name ← readHeader w header
    let members ← readMembers w lines
    return (name, members)

variable {w : WideLetters} {cs : List Char}

section Identifiers

theorem notMem_of_isIdentifier (h : IsIdentifier w cs) {c : Char} (hfirst : w.begins c = false)
    (hlater : w.continues c = false) : c ∉ cs := by
  obtain ⟨d, rest, rfl, hd, hrest⟩ := h
  intro hmem
  rcases List.mem_cons.mp hmem with rfl | hmem
  · rw [hfirst] at hd
    cases hd
  · have := hrest c hmem
    rw [hlater] at this
    cases this

/-- An identifier ends before what does not continue it. -/
theorem readIdentifier_append (h : IsIdentifier w cs) {c : Char} (hc : w.continues c = false)
    (x : List Char) : readIdentifier w (cs ++ c :: x) = some (String.ofList cs, c :: x) := by
  obtain ⟨d, rest, rfl, hd, hrest⟩ := h
  obtain ⟨htake, hdrop⟩ := takeWhile_run_append (x := c :: x) hrest (by simp [hc])
  rw [List.cons_append, readIdentifier, if_pos hd, htake, hdrop]

theorem isIdentifier_pascalCase (w : WideLetters) {s : String} (h : HasWord s.toList) :
    IsIdentifier w (pascalCase s).toList := by
  rw [pascalCase, String.toList_ofList]
  exact isCase_pascalChars.isIdentifier w h

theorem newline_notMem_pascalCase {s : String} (h : HasWord s.toList) :
    '\n' ∉ (pascalCase s).toList :=
  notMem_of_isIdentifier (isIdentifier_pascalCase ⟨fun _ => false, fun _ => false⟩ h) rfl rfl

end Identifiers

section Lines

theorem eq_space_of_mem_indent (s : Settings) :
    ∀ c ∈ s.typescriptIndentText.toList, (c == ' ') = true := by
  intro c hc
  rw [Settings.typescriptIndentText, spaces, String.toList_ofList] at hc
  simp [List.eq_of_mem_replicate hc]

theorem dropWhile_indent (s : Settings) (h : IsIdentifier w cs) (x : List Char) :
    (s.typescriptIndentText.toList ++ (cs ++ x)).dropWhile (· == ' ') = cs ++ x := by
  obtain ⟨c, rest, rfl, hc, -⟩ := h
  have hne : ¬ (c == ' ') = true := by
    rw [beq_iff_eq]
    rintro rfl
    cases hc
  rw [List.dropWhile_append_of_pos (eq_space_of_mem_indent s), List.cons_append]
  exact List.dropWhile_cons_of_neg hne

theorem toList_memberLine (s : Settings) (v : String) :
    (memberLine s v).toList = s.typescriptIndentText.toList ++
      ((pascalCase v).toList ++ ' ' :: ('=' :: ' ' :: ((jsonString v).toList ++ [',']))) := by
  simp [memberLine]

theorem readMember_memberLine (w : WideLetters) (s : Settings) {v : String}
    (h : HasWord v.toList) : readMember w (memberLine s v).toList = some (pascalCase v, v) := by
  have hid := isIdentifier_pascalCase w h
  have hsign (x : List Char) : (' ' :: '=' :: ' ' :: x).dropPrefix? " = ".toList = some x := by
    have happend : ' ' :: '=' :: ' ' :: x = " = ".toList ++ x := rfl
    rw [happend, dropPrefix?_append]
  rw [readMember, toList_memberLine, dropWhile_indent s hid, readIdentifier_append hid rfl,
    Option.bind_eq_bind, Option.bind_some, hsign, Option.bind_eq_bind, Option.bind_some,
    readJsonString_jsonString]
  simp

theorem newline_notMem_memberLine (s : Settings) {v : String} (h : HasWord v.toList) :
    '\n' ∉ (memberLine s v).toList := by
  have hindent : '\n' ∉ s.typescriptIndentText.toList := fun hmem =>
    absurd (eq_space_of_mem_indent s _ hmem) (by decide)
  rw [toList_memberLine]
  simp [hindent, newline_notMem_pascalCase h, newline_notMem_jsonString]

/-- Lines that declare members are read up to the closing brace. -/
theorem readMembers_append {vs : List String} {line : String → List Char}
    {member : String → String × String}
    (h : ∀ v ∈ vs, readMember w (line v) = some (member v)) :
    readMembers w (vs.map line ++ [['\x7d']]) = some (vs.map member) := by
  induction vs with
  | nil => rfl
  | cons v vs ih =>
      obtain ⟨hv, hvs⟩ := List.forall_mem_cons.mp h
      have hne : line v ≠ ['\x7d'] := by
        intro hbrace
        rw [hbrace] at hv
        cases hv
      rw [List.map_cons, List.cons_append, readMembers, if_neg hne, hv, ih hvs]
      rfl

theorem readHeader_append (h : IsIdentifier w cs) :
    readHeader w ("export enum ".toList ++ (cs ++ [' ', '\x7b'])) = some (String.ofList cs) := by
  rw [readHeader, dropPrefix?_append, Option.bind_eq_bind, Option.bind_some,
    readIdentifier_append h rfl]
  rfl

end Lines

/-- The lines of a declaration: the header, the members, and the closing brace. -/
def enumLines (s : Settings) (e : EnumType) : List (List Char) :=
  ("export enum ".toList ++ (e.typescriptName.toList ++ [' ', '\x7b'])) ::
    (e.values.map (fun v => (memberLine s v).toList) ++ [['\x7d']])

theorem toList_enumDeclaration (s : Settings) (e : EnumType) :
    (enumDeclaration s e).toList = ['\n'].intercalate (enumLines s e) := by
  obtain ⟨v, vs, hvs⟩ := List.exists_cons_of_ne_nil e.values_ne_nil
  have hbreak : "\n".toList = ['\n'] := rfl
  delta enumDeclaration enumLines
  rw [hvs, List.map_cons, List.map_cons, List.cons_append, intercalate_cons_eq, List.flatMap_cons]
  simp only [String.toList_append, String.toList_intercalate, List.map_cons, hbreak,
    intercalate_cons_eq]
  simp [Function.comp_def]

theorem newline_notMem_enumLines (s : Settings) {e : EnumType} (hname : HasWord e.name.toList)
    (hvalues : ∀ v ∈ e.values, HasWord v.toList) : ∀ line ∈ enumLines s e, '\n' ∉ line := by
  rw [enumLines, List.forall_mem_cons, List.forall_mem_append, List.forall_mem_map]
  refine ⟨?_, fun v hv => newline_notMem_memberLine s (hvalues v hv), by simp⟩
  have hid : '\n' ∉ e.typescriptName.toList := newline_notMem_pascalCase hname
  simp [hid]

/-- A declaration is read back as the name of the type, and the values with the names of their
members. -/
theorem readEnum_enumDeclaration (w : WideLetters) (s : Settings) {e : EnumType}
    (hname : HasWord e.name.toList) (hvalues : ∀ v ∈ e.values, HasWord v.toList) :
    readEnum w (enumDeclaration s e) =
      some (e.typescriptName, e.values.map fun v => (pascalCase v, v)) := by
  have hid : IsIdentifier w e.typescriptName.toList := isIdentifier_pascalCase w hname
  have hsplit : (enumDeclaration s e).toList.splitOn '\n' = enumLines s e := by
    rw [toList_enumDeclaration]
    exact List.splitOn_intercalate '\n' (newline_notMem_enumLines s hname hvalues)
      (List.cons_ne_nil _ _)
  have hmembers := readMembers_append fun v hv => readMember_memberLine w s (hvalues v hv)
  rw [readEnum, hsplit, enumLines]
  simp only
  rw [readHeader_append hid, hmembers, String.ofList_toList]
  rfl

end TableSchema.TypeScript
