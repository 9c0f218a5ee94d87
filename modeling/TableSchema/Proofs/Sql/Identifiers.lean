import TableSchema.Proofs.Sql.Defaults

/-!
# Identifiers read back

An identifier is a name between double quotes, in which a double quote stands twice, or a bare word.
What stands between quotes is taken as it is; of a bare word the ASCII letters count as small ones.
So a quoted name is read back whatever its characters, and a bare one if it is a word without
capitals. Words that the language keeps for itself are not told apart from others.
-/

namespace TableSchema.Sql

open Text

/-- The name that a written name denotes: a quoted one itself, a bare one in small letters. -/
def IdentifierPolicy.denoted : IdentifierPolicy → String → String
  | .bare, n => String.ofList (lowerAscii n.toList)
  | .quoted, n => n

/-- The characters of a quoted identifier up to its closing quote, and what follows it. -/
def readQuoted : List Char → Option (List Char × List Char)
  | [] => none
  | '"' :: '"' :: cs => (readQuoted cs).map fun r => ('"' :: r.1, r.2)
  | '"' :: cs => some ([], cs)
  | c :: cs => (readQuoted cs).map fun r => (c :: r.1, r.2)

/-- A character after the first of a bare word. -/
def isWordPart (c : Char) : Bool :=
  isWordStart c || c.isDigit || c == '$'

/-- The name that a bare word denotes, and what follows it. -/
def readWord (cs : List Char) : Option (List Char × List Char) :=
  if isWord (cs.takeWhile isWordPart) then
    some (lowerAscii (cs.takeWhile isWordPart), cs.dropWhile isWordPart)
  else none

/-- The name that an identifier denotes, and what follows it; no name is empty. -/
def readIdentifier : List Char → Option (List Char × List Char)
  | '"' :: cs => (readQuoted cs).filter fun r => !r.1.isEmpty
  | cs => readWord cs

section Quoted

variable {cs v rest x : List Char}

theorem readQuoted_close (hx : x.head? ≠ some '"') : readQuoted ('"' :: x) = some ([], x) := by
  cases x with
  | nil => rfl
  | cons c x =>
      have hc : c ≠ '"' := by simpa using hx
      rw [readQuoted]
      rintro ds ⟨⟩
      exact hc rfl

/-- A quote that stands alone ends the characters before it, in which quotes stand twice. -/
theorem readQuoted_doubled (cs : List Char) (hx : x.head? ≠ some '"') :
    readQuoted (doubled '"' cs ++ '"' :: x) = some (cs, x) := by
  induction cs with
  | nil => exact readQuoted_close hx
  | cons c cs ih =>
      by_cases hc : c = '"'
      · subst hc
        rw [doubled_cons_self, List.cons_append, List.cons_append, readQuoted, ih, Option.map_some]
      · rw [doubled_cons_of_ne hc, List.cons_append, readQuoted, ih, Option.map_some]
        · exact fun _ h _ => hc h
        · exact fun h => hc h

theorem eq_of_readQuoted (h : readQuoted cs = some (v, rest)) :
    cs = doubled '"' v ++ '"' :: rest := by
  fun_induction readQuoted cs generalizing v with
  | case1 => cases h
  | case2 cs ih =>
      obtain ⟨⟨v', rest'⟩, hread, hr⟩ := Option.map_eq_some_iff.mp h
      obtain ⟨rfl, rfl⟩ := Prod.mk.injEq .. ▸ hr
      rw [doubled_cons_self, ih hread]
      rfl
  | case3 cs =>
      obtain ⟨rfl, rfl⟩ := Prod.mk.injEq .. ▸ Option.some.inj h
      rfl
  | case4 c cs _ hc ih =>
      obtain ⟨⟨v', rest'⟩, hread, hr⟩ := Option.map_eq_some_iff.mp h
      obtain ⟨rfl, rfl⟩ := Prod.mk.injEq .. ▸ hr
      rw [doubled_cons_of_ne hc, ih hread]
      rfl

/-- No text begins with quotes and then itself with its quotes doubled. -/
theorem append_ne_replicate_append {f : Char → Char} (hf : f '"' = '"') (hx : x.head? ≠ some '"')
    (k : Nat) (t y : List Char) :
    t ++ x ≠ List.replicate (k + 1) '"' ++ (doubled '"' (t.map f) ++ y) := by
  -- Each quote that the text begins with asks for two quotes after it, so there are never enough.
  induction t generalizing k with
  | nil =>
      rintro rfl
      simp [List.replicate_succ] at hx
  | cons c t ih =>
      intro h
      rw [List.replicate_succ, List.cons_append, List.cons_append, List.cons.injEq] at h
      obtain ⟨rfl, hrest⟩ := h
      refine ih (k + 1) ?_
      rw [hrest, List.map_cons, hf, doubled_cons_self, List.replicate_succ', List.replicate_succ']
      simp

end Quoted

section Words

variable {n x y : List Char}

theorem isWord_cons (c : Char) (cs : List Char) :
    isWord (c :: cs) = (isWordStart c && cs.all isWordPart) := rfl

theorem isWordPart_of_mem (h : isWord n = true) {c : Char} (hc : c ∈ n) : isWordPart c = true := by
  cases n with
  | nil => cases h
  | cons d n =>
      rw [isWord_cons, Bool.and_eq_true, List.all_eq_true] at h
      rcases List.mem_cons.mp hc with rfl | hc
      · simp [isWordPart, h.1]
      · exact h.2 c hc

/-- A word is read up to a character that is no part of words. -/
theorem readWord_append (h : isWord n = true) (hx : ∀ c ∈ x.head?, isWordPart c = false) :
    readWord (n ++ x) = some (lowerAscii n, x) := by
  obtain ⟨htake, hdrop⟩ := takeWhile_run_append (fun c hc => isWordPart_of_mem h hc) hx
  rw [readWord, htake, hdrop, if_pos h]

theorem readIdentifier_of_head?_ne (h : n.head? ≠ some '"') : readIdentifier n = readWord n := by
  unfold readIdentifier
  split
  · simp at h
  · rfl

end Words

section Names

variable {n x y : List Char}

theorem readIdentifier_quoted (hn : n ≠ []) (hx : x.head? ≠ some '"') :
    readIdentifier (identifierChars n ++ x) = some (n, x) := by
  have hchars : identifierChars n ++ x = '"' :: (doubled '"' n ++ '"' :: x) := by
    simp [identifierChars]
  rw [hchars, readIdentifier, readQuoted_doubled n hx, Option.filter_some, if_pos (by simpa using hn)]

/-- A name that begins with a quote is not read as itself: its first quote opens an identifier. -/
theorem readIdentifier_quote_cons_ne {f : Char → Char} (hf : f '"' = '"')
    (hx : x.head? ≠ some '"') (n y : List Char) :
    readIdentifier ('"' :: n ++ x) ≠ some (('"' :: n).map f, y) := by
  intro h
  rw [List.cons_append, readIdentifier, Option.filter_eq_some_iff] at h
  have hread := eq_of_readQuoted h.1
  rw [List.map_cons, hf, doubled_cons_self] at hread
  exact append_ne_replicate_append hf hx 1 n ('"' :: y) hread

/-- A bare name is read as itself, perhaps with other letters, if it is a word with these letters as
its small ones. -/
theorem readIdentifier_bare_iff {f : Char → Char} (hf : f '"' = '"')
    (hx : ∀ c ∈ x.head?, isWordPart c = false ∧ c ≠ '"') :
    readIdentifier (n ++ x) = some (n.map f, y) ↔
      isWord n = true ∧ lowerAscii n = n.map f ∧ x = y := by
  have hpart : ∀ c ∈ x.head?, isWordPart c = false := fun c hc => (hx c hc).1
  have hquote : x.head? ≠ some '"' := fun h => (hx _ h).2 rfl
  constructor
  · intro h
    by_cases hn : n.head? = some '"'
    · obtain ⟨t, rfl⟩ := List.head?_eq_some_iff.mp hn
      exact absurd h (readIdentifier_quote_cons_ne hf hquote t y)
    · have hhead : (n ++ x).head? ≠ some '"' := by
        cases n with
        | nil => exact hquote
        | cons c n => exact hn
      rw [readIdentifier_of_head?_ne hhead, readWord] at h
      split at h
      · rename_i hword
        obtain ⟨hletters, -⟩ := Prod.mk.injEq .. ▸ Option.some.inj h
        -- The word is as long as the name and begins the same text, so it is the name.
        have hlength : ((n ++ x).takeWhile isWordPart).length = n.length := by
          simpa [lowerAscii] using congrArg List.length hletters
        have hself : (n ++ x).takeWhile isWordPart = n :=
          (List.prefix_of_prefix_length_le (List.takeWhile_prefix _) (List.prefix_append n x)
            hlength.le).eq_of_length hlength
        have hisWord : isWord n = true := hself ▸ hword
        have hread := readWord_append hisWord hpart
        rw [readWord, if_pos hword, h, Option.some.injEq, Prod.mk.injEq] at hread
        exact ⟨hisWord, hread.1.symm, hread.2.symm⟩
      · cases h
  · rintro ⟨hword, hletters, rfl⟩
    have hhead : (n ++ x).head? ≠ some '"' := by
      cases n with
      | nil => cases hword
      | cons c n =>
          rintro ⟨⟩
          cases hword
    rw [readIdentifier_of_head?_ne hhead, readWord_append hword hpart, hletters]

section Policy

variable {p : IdentifierPolicy} {name : String}

/-- A quoted name is read back as it is, and a bare word as the word in small letters. -/
theorem readIdentifier_name_iff (hname : name ≠ "")
    (hx : ∀ c ∈ x.head?, isWordPart c = false ∧ c ≠ '"') :
    readIdentifier ((p.name name).chars ++ x) = some ((p.denoted name).toList, y) ↔
      (p = .quoted ∨ isWord name.toList = true) ∧ x = y := by
  cases p with
  | bare =>
      have hbare : readIdentifier (name.toList ++ x) = some (name.toList.map Char.toLower, y) ↔ _ :=
        readIdentifier_bare_iff rfl hx
      simpa [IdentifierPolicy.denoted, IdentifierPolicy.name, lowerAscii] using hbare
  | quoted =>
      have hquoted := readIdentifier_quoted (x := x) (n := name.toList) (by simpa using hname)
        fun h => (hx _ h).2 rfl
      simp [IdentifierPolicy.denoted, IdentifierPolicy.name, hquoted]

/-- So a name is read back as it is if it is quoted or a word without capitals. -/
theorem readIdentifier_name_self_iff (hname : name ≠ "")
    (hx : ∀ c ∈ x.head?, isWordPart c = false ∧ c ≠ '"') :
    readIdentifier ((p.name name).chars ++ x) = some (name.toList, y) ↔
      (p = .quoted ∨ isWord name.toList = true ∧ lowerAscii name.toList = name.toList) ∧
        x = y := by
  cases p with
  | bare =>
      have hbare : readIdentifier (name.toList ++ x) = some (name.toList.map id, y) ↔ _ :=
        readIdentifier_bare_iff rfl hx
      simpa [IdentifierPolicy.name, and_assoc] using hbare
  | quoted =>
      exact (readIdentifier_name_iff hname hx).trans (by simp)

end Policy

end Names

end TableSchema.Sql
