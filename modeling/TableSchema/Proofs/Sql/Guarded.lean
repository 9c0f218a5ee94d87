import TableSchema.Proofs.Sql.Constants
import TableSchema.Proofs.Sql.Writability

/-!
# Guarded blocks

A guarded creation stands between dollar quotes: the first pair of dollar signs after the opening
one ends the body. Quotes are doubled in names and constants, dollar signs are not, so a pair in the
name or in a value is a pair of the text. The pairs of the whole text are counted here, and the body
is read back exactly if that count is two.
-/

namespace TableSchema.Sql

open Text Fragment

/-- How often a dollar sign is followed by another one. -/
def dollarPairs : List Char → Nat
  | [] => 0
  | c :: cs => dollarPairs cs + if c = '$' ∧ cs.head? = some '$' then 1 else 0

/-- How many such pairs lie inside the texts. -/
def dollarPairsIn : List (List Char) → Nat
  | [] => 0
  | cs :: css => dollarPairs cs + dollarPairsIn css

section DollarPairs

variable {c : Char} {cs xs ys : List Char}

theorem dollarPairs_cons_of_ne (h : c ≠ '$') (cs : List Char) :
    dollarPairs (c :: cs) = dollarPairs cs := by
  simp [dollarPairs, h]

/-- No pair lies across the end of one text and the beginning of the next unless both are dollar
signs. -/
theorem dollarPairs_append (h : xs.getLast? ≠ some '$' ∨ ys.head? ≠ some '$') :
    dollarPairs (xs ++ ys) = dollarPairs xs + dollarPairs ys := by
  induction xs with
  | nil => simp [dollarPairs]
  | cons x xs ih =>
      cases xs with
      | nil =>
          have hnone : ¬ (x = '$' ∧ ys.head? = some '$') := by
            rintro ⟨rfl, hhead⟩
            rcases h with hlast | hfirst
            · exact hlast rfl
            · exact hfirst hhead
          simp [dollarPairs, hnone]
      | cons y xs =>
          rw [List.getLast?_cons_cons] at h
          have hcons (zs : List Char) : dollarPairs (x :: y :: zs) =
              dollarPairs (y :: zs) + if x = '$' ∧ some y = some '$' then 1 else 0 := rfl
          have hrest : dollarPairs (y :: (xs ++ ys)) =
              dollarPairs (y :: xs) + dollarPairs ys := ih h
          rw [List.cons_append, List.cons_append, hcons, hcons, hrest]
          omega

theorem dollarPairs_append_cons (h : c ≠ '$') (xs ys : List Char) :
    dollarPairs (xs ++ c :: ys) = dollarPairs xs + dollarPairs ys := by
  rw [dollarPairs_append (Or.inr (by simp [h])), dollarPairs_cons_of_ne h]

theorem head?_doubled (c : Char) (cs : List Char) : (doubled c cs).head? = cs.head? := by
  cases cs with
  | nil => rfl
  | cons d cs =>
      by_cases h : d = c
      · rw [h, doubled_cons_self]
        rfl
      · rw [doubled_cons_of_ne h]
        rfl

/-- Another character that is written twice makes no new pairs. -/
theorem dollarPairs_doubled (h : c ≠ '$') (cs : List Char) :
    dollarPairs (doubled c cs) = dollarPairs cs := by
  induction cs with
  | nil => rfl
  | cons d cs ih =>
      by_cases hd : d = c
      · subst hd
        rw [doubled_cons_self, dollarPairs_cons_of_ne h, dollarPairs_cons_of_ne h, ih,
          dollarPairs_cons_of_ne h]
      · rw [doubled_cons_of_ne hd, dollarPairs, dollarPairs, ih, head?_doubled]

theorem dollarPairs_literalChars (cs : List Char) :
    dollarPairs (literalChars cs) = dollarPairs cs := by
  have hquoted (ds : List Char) : dollarPairs ('\'' :: (ds ++ ['\''])) = dollarPairs ds := by
    rw [dollarPairs_cons_of_ne (by decide), dollarPairs_append_cons (by decide)]
    rfl
  by_cases h : '\\' ∈ cs
  · rw [literalChars_of_mem h, dollarPairs_cons_of_ne (by decide),
      dollarPairs_cons_of_ne (by decide), hquoted, dollarPairs_doubled (by decide),
      dollarPairs_doubled (by decide)]
  · rw [literalChars_of_notMem h, hquoted, dollarPairs_doubled (by decide)]

theorem dollarPairs_identifierChars (cs : List Char) :
    dollarPairs (identifierChars cs) = dollarPairs cs := by
  rw [identifierChars, dollarPairs_cons_of_ne (by decide), dollarPairs_append_cons (by decide),
    dollarPairs_doubled (by decide)]
  rfl

/-- Names and constants are spelled with their own pairs, whatever the policy. -/
theorem dollarPairs_name (p : IdentifierPolicy) (n : String) :
    dollarPairs (p.name n).chars = dollarPairs n.toList := by
  cases p with
  | bare => rfl
  | quoted => exact dollarPairs_identifierChars n.toList

theorem dollarPairs_intercalate (parts : List (List Char)) :
    dollarPairs ([',', ' '].intercalate parts) = dollarPairsIn parts := by
  cases parts with
  | nil => rfl
  | cons part parts =>
      rw [intercalate_cons_eq]
      induction parts generalizing part with
      | nil => simp [dollarPairsIn]
      | cons next parts ih =>
          calc
            dollarPairs (part ++ (next :: parts).flatMap ([',', ' '] ++ ·))
              = dollarPairs (part ++ ',' :: ' ' ::
                  (next ++ parts.flatMap ([',', ' '] ++ ·))) := by simp
            _ = dollarPairs part + dollarPairs (next ++ parts.flatMap ([',', ' '] ++ ·)) := by
                rw [dollarPairs_append_cons (by decide), dollarPairs_cons_of_ne (by decide)]
            _ = dollarPairsIn (part :: next :: parts) := by
                rw [ih]
                rfl

theorem dollarPairs_enumValues (vs : List String) :
    dollarPairs (spelling (enumValues vs)) = dollarPairsIn (vs.map String.toList) := by
  rw [spelling_enumValues, dollarPairs_intercalate]
  induction vs with
  | nil => rfl
  | cons v vs ih =>
      rw [List.map_cons, List.map_cons, dollarPairsIn, dollarPairsIn, dollarPairs_literalChars, ih]

theorem dollarPairsIn_eq_zero_iff {css : List (List Char)} :
    dollarPairsIn css = 0 ↔ ∀ cs ∈ css, dollarPairs cs = 0 := by
  induction css with
  | nil => simp [dollarPairsIn]
  | cons cs css ih =>
      rw [dollarPairsIn, List.forall_mem_cons, ← ih]
      omega

theorem dollarPairs_pos_iff : 0 < dollarPairs cs ↔ ['$', '$'] <:+: cs := by
  induction cs with
  | nil => simp [dollarPairs]
  | cons c cs ih =>
      rw [List.infix_cons_iff, ← ih, dollarPairs]
      have hbegins : ['$', '$'] <+: c :: cs ↔ c = '$' ∧ cs.head? = some '$' := by
        cases cs with
        | nil => simp
        | cons d cs => simp [eq_comm]
      rw [hbegins]
      split
      · rename_i h
        simp [h]
      · rename_i h
        simp [h]

theorem dollarPairs_eq_zero_iff : dollarPairs cs = 0 ↔ ¬ ['$', '$'] <:+: cs := by
  rw [← dollarPairs_pos_iff]
  omega

end DollarPairs

/-- The characters between the dollar signs of a block that is carried out at once, and what follows
the pair that ends them. -/
def doBody? (cs : List Char) : Option (List Char × List Char) :=
  (cs.dropPrefix? "DO $$".toList).bind (·.dropInfix? ['$', '$'])

/-- The first pair of dollar signs ends the body, so a body without pairs is read as a whole. -/
theorem dropInfix?_dollars_iff {body rest : List Char} (hlast : body.getLast? ≠ some '$') :
    (body ++ '$' :: '$' :: rest).dropInfix? ['$', '$'] = some (body, rest) ↔
      dollarPairs body = 0 := by
  rw [List.dropInfix?_eq_some_iff, dollarPairs_eq_zero_iff]
  constructor
  · rintro ⟨-, hshortest⟩ ⟨front, back, hbody⟩
    have hsplit : body ++ '$' :: '$' :: rest =
        front ++ ['$', '$'] ++ (back ++ '$' :: '$' :: rest) := by
      rw [← hbody, List.append_assoc]
    have hle := hshortest _ _ _ hsplit (by simp)
    rw [← hbody] at hle
    simp only [List.length_append, List.length_cons, List.length_nil] at hle
    omega
  · intro hfree
    refine ⟨⟨['$', '$'], by simp, by simp⟩, ?_⟩
    intro front mark back hsplit hmark
    obtain rfl : mark = ['$', '$'] := by simpa using hmark
    by_contra hshorter
    rw [List.append_assoc] at hsplit
    rcases List.append_eq_append_iff.mp hsplit with ⟨more, rfl, -⟩ | ⟨more, rfl, hmore⟩
    · simp at hshorter
    · -- What the body has after the front begins with one dollar sign or with two.
      match more with
      | [] => simp at hshorter
      | [c] =>
          obtain ⟨rfl, -⟩ := List.cons_eq_cons.mp hmore
          simp at hlast
      | c :: d :: more =>
          obtain ⟨rfl, hrest⟩ := List.cons_eq_cons.mp hmore
          obtain ⟨rfl, -⟩ := List.cons_eq_cons.mp hrest
          exact hfree ⟨front, more, by simp⟩

/-- What stands between the dollar signs of a guarded block: the statement inside a test of the
catalogue name. -/
def guardedBody (catalogueName : String) (statement : String) : List Char :=
  "\nBEGIN\n    IF NOT EXISTS (SELECT 1 FROM pg_type WHERE typname = ".toList ++
    (literalChars catalogueName.toList ++ (") THEN\n        ".toList ++
      (statement.toList ++ "\n    END IF;\nEND".toList)))

theorem dollarPairs_guardedBody (n statement : String) :
    dollarPairs (guardedBody n statement) =
      dollarPairs n.toList + dollarPairs statement.toList := by
  have hfront : dollarPairs
      "\nBEGIN\n    IF NOT EXISTS (SELECT 1 FROM pg_type WHERE typname = ".toList = 0 := by
    decide +kernel
  have hthen (x : List Char) : dollarPairs (") THEN\n        ".toList ++ x) = dollarPairs x := by
    rw [dollarPairs_append (Or.inl (by decide))]
    exact Nat.zero_add _
  have hback : dollarPairs "\n    END IF;\nEND".toList = 0 := by decide
  have hname (x : List Char) :
      dollarPairs (literalChars n.toList ++ (") THEN\n        ".toList ++ x)) =
        dollarPairs n.toList + dollarPairs x := by
    rw [dollarPairs_append (Or.inr (by simp)), hthen, dollarPairs_literalChars]
  delta guardedBody
  rw [dollarPairs_append (Or.inl (by decide +kernel)), hfront, hname,
    dollarPairs_append (Or.inr (by decide +kernel)), hback]
  omega

theorem dollarPairs_createEnum (p : IdentifierPolicy) (n : String) (vs : List String) :
    dollarPairs (spelling (createEnum (p.name n) vs)) =
      dollarPairs n.toList + dollarPairsIn (vs.map String.toList) := by
  have hlist (x : List Char) : dollarPairs (" AS ENUM (".toList ++ x) = dollarPairs x := by
    rw [dollarPairs_append (Or.inl (by decide))]
    exact Nat.zero_add _
  have hend : dollarPairs ");".toList = 0 := rfl
  calc
    dollarPairs (spelling (createEnum (p.name n) vs))
      = dollarPairs ("CREATE TYPE ".toList ++ ((p.name n).chars ++
          (" AS ENUM (".toList ++ (spelling (enumValues vs) ++ ");".toList)))) := by
        rw [spelling_createEnum]
    _ = dollarPairs n.toList + dollarPairsIn (vs.map String.toList) := by
        rw [dollarPairs_append (Or.inl (by decide)),
          dollarPairs_append (Or.inr (by simp)), hlist,
          dollarPairs_append (Or.inr (by decide)), dollarPairs_name, dollarPairs_enumValues, hend]
        exact Nat.zero_add _

theorem spelling_createEnumGuarded (n : String) (name : Fragment) (vs : List String) :
    spelling (createEnumGuarded n name vs) = "DO $$".toList ++
      (guardedBody n (String.ofList (spelling (createEnum name vs))) ++ "$$;".toList) := by
  have hfront : ("DO $$\nBEGIN\n" ++
      "    IF NOT EXISTS (SELECT 1 FROM pg_type WHERE typname = ").toList = "DO $$".toList ++
        "\nBEGIN\n    IF NOT EXISTS (SELECT 1 FROM pg_type WHERE typname = ".toList := by
    decide +kernel
  have hback : "\n    END IF;\nEND$$;".toList =
      "\n    END IF;\nEND".toList ++ "$$;".toList := by
    decide +kernel
  delta createEnumGuarded guardedBody
  simp only [spelling_append, spelling_cons, spelling_nil,
    chars_verbatim, chars_literal, hfront, hback, String.toList_ofList, List.append_assoc,
    List.append_nil]

theorem getLast?_guardedBody (n statement : String) :
    (guardedBody n statement).getLast? = some 'D' := by
  have hback : "\n    END IF;\nEND".toList.getLast? = some 'D' := by decide +kernel
  delta guardedBody
  simp only [List.getLast?_append, hback, Option.some_or]

theorem infix_guardedBody (n statement : String) :
    statement.toList <:+: guardedBody n statement := by
  have hmiddle (a b c d x : List Char) : c <:+: a ++ (b ++ (d ++ (c ++ x))) :=
    ⟨a ++ (b ++ d), x, by simp only [List.append_assoc]⟩
  delta guardedBody
  exact hmiddle ..

/-- Two pairs delimit the block; the name adds its pairs twice, as it stands in the test and in the
statement. -/
theorem dollarPairs_block (n statement : String) :
    dollarPairs ("DO $$".toList ++ (guardedBody n statement ++ "$$;".toList)) =
      2 + (dollarPairs n.toList + dollarPairs statement.toList) := by
  have hopen : dollarPairs "DO $$".toList = 1 := by decide
  have hclose : dollarPairs "$$;".toList = 1 := by decide
  have hhead (x : List Char) : (guardedBody n statement ++ x).head? = some '\n' := rfl
  rw [dollarPairs_append (Or.inr (by simp [hhead])),
    dollarPairs_append (Or.inl (by simp [getLast?_guardedBody])), dollarPairs_guardedBody, hopen,
    hclose]
  omega

/-- The body begins after the opening dollar signs. -/
theorem doBody?_append (cs : List Char) :
    doBody? ("DO $$".toList ++ cs) = cs.dropInfix? ['$', '$'] := by
  rw [doBody?, dropPrefix?_append, Option.bind_some]

theorem doBody?_block_iff (n statement : String) :
    doBody? ("DO $$".toList ++ (guardedBody n statement ++ "$$;".toList)) =
        some (guardedBody n statement, [';']) ↔
      dollarPairs n.toList + dollarPairs statement.toList = 0 := by
  have hclose : "$$;".toList = '$' :: '$' :: [';'] := rfl
  rw [doBody?_append, hclose, dropInfix?_dollars_iff (by simp [getLast?_guardedBody]),
    dollarPairs_guardedBody]

/-- Without the guard, the statement is spelled as the policy of the settings spells it. -/
theorem toList_of_createEnum_text {s : Settings} {e : EnumType} {statement : String}
    (h : (Statement.createEnum e).text { s with guardEnumTypes := false } = .ok statement) :
    statement.toList = spelling (createEnum (s.policy.name e.name) e.values) := by
  have hrender : render (createEnum (s.policy.name e.name) e.values) = .ok statement := h
  exact toList_of_render hrender

theorem exists_createEnum_text_iff {s : Settings} {e : EnumType} :
    (∃ text, (Statement.createEnum e).text s = .ok text) ↔ e.IsWritable s := by
  have hcompose : (Statement.createEnum e).compose s = .ok (enumDefinition s e) := rfl
  rw [exists_statement_text_iff, hcompose, ← areWritable_enumDefinition]
  simp

/-- Where a guarded statement can be written, so can the statement without the guard. -/
theorem exists_createEnum_text_of_guarded {s : Settings} {e : EnumType} {text : String}
    (h : (Statement.createEnum e).text { s with guardEnumTypes := true } = .ok text) :
    ∃ statement,
      (Statement.createEnum e).text { s with guardEnumTypes := false } = .ok statement := by
  obtain ⟨-, hvalues⟩ := exists_createEnum_text_iff.mp ⟨text, h⟩
  exact exists_createEnum_text_iff.mpr ⟨fun hguard => absurd hguard (by simp), hvalues⟩

/-- The guarded statement is the other one inside a block. -/
theorem toList_of_guarded_text {s : Settings} {e : EnumType} {text statement : String}
    (h : (Statement.createEnum e).text { s with guardEnumTypes := true } = .ok text)
    (hstatement :
      (Statement.createEnum e).text { s with guardEnumTypes := false } = .ok statement) :
    text.toList = "DO $$".toList ++ (guardedBody e.name statement ++ "$$;".toList) := by
  have hrender : render (createEnumGuarded e.name (s.policy.name e.name) e.values) = .ok text := h
  rw [toList_of_render hrender, spelling_createEnumGuarded, ← toList_of_createEnum_text hstatement,
    String.ofList_toList]

/-- The statement stands unaltered in what is written under the settings, guarded or not. -/
theorem infix_of_text {s : Settings} {e : EnumType} {statement text : String}
    (hstatement :
      (Statement.createEnum e).text { s with guardEnumTypes := false } = .ok statement)
    (h : (Statement.createEnum e).text s = .ok text) : statement.toList <:+: text.toList := by
  cases hguard : s.guardEnumTypes with
  | false =>
      have hs : { s with guardEnumTypes := false } = s := by rw [← hguard]
      rw [hs] at hstatement
      obtain rfl := Except.ok.inj (hstatement.symm.trans h)
      exact List.infix_refl _
  | true =>
      have hs : { s with guardEnumTypes := true } = s := by rw [← hguard]
      rw [← hs] at h
      rw [toList_of_guarded_text h hstatement]
      exact (infix_guardedBody _ _).trans (List.infix_append' _ _ _)

/-- A guarded creation of an enumeration is the unguarded statement inside a block. Pairs of dollar
signs are those around the body and those of the name, twice, and of the values. So the block ends
where it should, and has no other pairs, exactly if there are none in the name and the values. -/
theorem guarded_text_eq (s : Settings) (e : EnumType) (text : String)
    (h : (Statement.createEnum e).text { s with guardEnumTypes := true } = .ok text) :
    ∃ statement, (Statement.createEnum e).text { s with guardEnumTypes := false } = .ok statement ∧
      text.toList = "DO $$".toList ++ (guardedBody e.name statement ++ "$$;".toList) ∧
      dollarPairs text.toList =
        2 + (2 * dollarPairs e.name.toList + dollarPairsIn (e.values.map String.toList)) ∧
      (doBody? text.toList = some (guardedBody e.name statement, [';']) ↔
        ¬ ['$', '$'] <:+: e.name.toList ∧ ∀ v ∈ e.values, ¬ ['$', '$'] <:+: v.toList) := by
  obtain ⟨statement, hstatement⟩ := exists_createEnum_text_of_guarded h
  have htext := toList_of_guarded_text h hstatement
  have hpairs : dollarPairs statement.toList =
      dollarPairs e.name.toList + dollarPairsIn (e.values.map String.toList) := by
    rw [toList_of_createEnum_text hstatement, dollarPairs_createEnum]
  refine ⟨statement, hstatement, htext, ?_, ?_⟩
  · rw [htext, dollarPairs_block, hpairs]
    omega
  · rw [htext, doBody?_block_iff, hpairs, ← dollarPairs_eq_zero_iff]
    simp only [← dollarPairs_eq_zero_iff]
    have hvalues : dollarPairsIn (e.values.map String.toList) = 0 ↔
        ∀ v ∈ e.values, dollarPairs v.toList = 0 := by
      rw [dollarPairsIn_eq_zero_iff, List.forall_mem_map]
    rw [← hvalues]
    omega

end TableSchema.Sql

namespace TableSchema.Sample

/-- Signs of currencies, which hold dollar signs one at a time, beside quotes and a backslash. -/
def currency : EnumType :=
  ⟨"$currency$", ["$", "'$'", "US\\$"], by decide, by decide⟩

/-- Prices by how many signs stand for them. -/
def priceRange : EnumType :=
  ⟨"price_range", ["$", "$$"], by decide, by decide⟩

/-- The statement that creates the type of price ranges unless there is one. -/
def priceRangeText : String :=
  "DO $$\nBEGIN\n" ++
  "    IF NOT EXISTS (SELECT 1 FROM pg_type WHERE typname = 'price_range') THEN\n" ++
  "        CREATE TYPE price_range AS ENUM ('$', '$$');\n" ++
  "    END IF;\nEND$$;"

end TableSchema.Sample

namespace TableSchema.Sql

theorem currency_guarded_text_eq :
    let s : Settings := { quoteIdentifiers := true }
    ∃ text,
      (Statement.createEnum Sample.currency).text { s with guardEnumTypes := true } = .ok text ∧
      dollarPairs text.toList = 2 ∧
      ∃ statement, (Statement.createEnum Sample.currency).text s = .ok statement ∧
        doBody? text.toList = some (guardedBody Sample.currency.name statement, [';']) := by
  intro s
  obtain ⟨text, htext⟩ : ∃ text,
      (Statement.createEnum Sample.currency).text { s with guardEnumTypes := true } = .ok text := by
    rw [exists_createEnum_text_iff]
    decide +kernel
  obtain ⟨statement, hstatement, -, hpairs, hbody⟩ := guarded_text_eq s Sample.currency text htext
  refine ⟨text, htext, ?_, statement, hstatement, ?_⟩
  · rw [hpairs]
    decide +kernel
  · apply hbody.mpr
    decide +kernel

/-- A value made of two dollar signs ends the body in the middle of the list of values. -/
theorem priceRange_text_not_delimited :
    (Statement.createEnum Sample.priceRange).text { guardEnumTypes := true } =
        .ok Sample.priceRangeText ∧
      dollarPairs Sample.priceRangeText.toList = 3 ∧
      (doBody? Sample.priceRangeText.toList).map Prod.snd =
        some "');\n    END IF;\nEND$$;".toList := by
  constructor
  · decide +kernel
  · decide +kernel

end TableSchema.Sql
