import TableSchema.Proofs.Sql.Guarded
import TableSchema.Proofs.Sql.Identifiers

/-!
# Guarded blocks that can be carried out again

A guarded block looks for a name among the types of the catalogue and creates a type unless it finds
it. The name that it looks for stands in a string constant and the name of the type in an identifier,
so the two need not be the same: a bare identifier is one of small letters. The block is read from
end to end, down to both names. It can be carried out any number of times if and only if the names
agree, and that is so for names that are quoted or words without capitals.
-/

namespace TableSchema

/-- Neither the name nor a value of the enumeration holds two dollar signs in a row. -/
def EnumType.IsPairFree (e : EnumType) : Prop :=
  ¬ ['$', '$'] <:+: e.name.toList ∧ ∀ v ∈ e.values, ¬ ['$', '$'] <:+: v.toList

namespace Sql

open Text Fragment

/-- What a guarded block does: it creates a type unless the catalogue has one of the tested name. -/
structure GuardedCreation where
  tested : String
  created : String
deriving DecidableEq, Repr

namespace GuardedCreation

variable {g : GuardedCreation}

/-- The names of the types in the catalogue after the block was carried out; the creation of a type
that exists fails. -/
def run (g : GuardedCreation) (types : List String) : Option (List String) :=
  if g.tested ∈ types then some types
  else if g.created ∈ types then none
  else some (g.created :: types)

/-- To carry a block out twice is to carry it out once exactly if it looks for what it creates. -/
theorem bind_run_eq_self_iff :
    (∀ types, (g.run types).bind g.run = g.run types) ↔ g.tested = g.created := by
  constructor
  · intro h
    by_contra hne
    -- In an empty catalogue the block creates its type, and then does not find it.
    have hempty := h []
    simp [run, hne] at hempty
  · intro h types
    by_cases hmem : g.created ∈ types
    · simp [run, h, hmem]
    · simp [run, h, hmem]

end GuardedCreation

/-- The name of the type that a statement at the beginning of the characters creates, and what
follows the statement. -/
def readCreateEnum (cs : List Char) : Option (List Char × List Char) := do
  let (name, list) ← readIdentifier (← cs.dropPrefix? "CREATE TYPE ".toList)
  let (_, rest) ← readConstants (← list.dropPrefix? " AS ENUM (".toList)
  return (name, ← rest.dropPrefix? [';'])

/-- What the characters between the dollar signs of a guarded block do. -/
def readGuardedBody (cs : List Char) : Option GuardedCreation := do
  let (tested, rest) ← readConstant (← cs.dropPrefix?
    "\nBEGIN\n    IF NOT EXISTS (SELECT 1 FROM pg_type WHERE typname = ".toList)
  let (created, rest) ← readCreateEnum (← rest.dropPrefix? ") THEN\n        ".toList)
  if rest = "\n    END IF;\nEND".toList then
    return ⟨String.ofList tested, String.ofList created⟩
  else none

/-- What a guarded block does, if it is one from end to end. -/
def readGuarded (text : String) : Option GuardedCreation := do
  let (body, rest) ← doBody? text.toList
  if rest = [';'] then readGuardedBody body else none

section Statement

variable {name : Fragment} {vs : List String} {n : List Char} {p : Prop}

/-- The type that a statement creates is the one that its identifier denotes. -/
theorem readCreateEnum_iff (hvs : vs ≠ []) (x : List Char)
    (hname : ∀ x y, (∀ c ∈ x.head?, isWordPart c = false ∧ c ≠ '"') →
      (readIdentifier (name.chars ++ x) = some (n, y) ↔ p ∧ x = y)) :
    readCreateEnum (spelling (createEnum name vs) ++ x) = some (n, x) ↔ p := by
  have hlist : readConstants (spelling (enumValues vs) ++ (");".toList ++ x)) =
      some (vs.map String.toList, ';' :: x) :=
    readConstants_enumValues hvs _
  have hend : (';' :: x).dropPrefix? [';'] = some x := dropPrefix?_append [';'] x
  have hread (y : List Char) := hname (" AS ENUM (".toList ++
    (spelling (enumValues vs) ++ (");".toList ++ x))) y (by simp; decide)
  rw [readCreateEnum, spelling_createEnum, List.append_assoc, List.append_assoc, List.append_assoc,
    List.append_assoc, dropPrefix?_append]
  simp only [Option.bind_eq_bind, Option.bind_some, Option.bind_eq_some_iff, Option.pure_def]
  constructor
  · rintro ⟨⟨m, list⟩, hm, list', -, r, -, rest, -, h⟩
    obtain ⟨rfl, -⟩ := Prod.mk.injEq .. ▸ Option.some.inj h
    exact ((hread _).mp hm).1
  · intro hp
    exact ⟨_, (hread _).mpr ⟨hp, rfl⟩, _, dropPrefix?_append _ _, _, hlist, _, hend, rfl⟩

end Statement

section Block

variable {tested statement : String} {body : List Char} {g : GuardedCreation}

theorem readGuardedBody_eq_some_iff :
    readGuardedBody (guardedBody tested statement) = some g ↔
      g.tested = tested ∧
        readCreateEnum (statement.toList ++ "\n    END IF;\nEND".toList) =
          some (g.created.toList, "\n    END IF;\nEND".toList) := by
  delta guardedBody
  rw [readGuardedBody]
  -- What the end of the block is does not matter, and is not looked into.
  generalize "\n    END IF;\nEND".toList = back
  rw [dropPrefix?_append]
  simp only [Option.bind_eq_bind, Option.bind_some]
  rw [readConstant_literalChars tested.toList (by simp)]
  simp only [Option.bind_some, dropPrefix?_append]
  constructor
  · intro h
    obtain ⟨⟨created, rest⟩, hread, hg⟩ := Option.bind_eq_some_iff.mp h
    dsimp only at hg
    split at hg
    · rename_i hrest
      obtain rfl := Option.some.inj hg
      rw [hread, hrest]
      simp only [String.toList_ofList, String.ofList_toList, true_and]
    · cases hg
  · rintro ⟨rfl, hread⟩
    simp only [hread, Option.bind_some, if_true, String.ofList_toList, Option.pure_def]

/-- A block that is delimited as a whole is one from its first dollar signs to its last. -/
theorem doBody?_block_eq_some_iff :
    doBody? ("DO $$".toList ++ (guardedBody tested statement ++ "$$;".toList)) =
        some (body, [';']) ↔
      body = guardedBody tested statement ∧
        dollarPairs tested.toList + dollarPairs statement.toList = 0 := by
  constructor
  · intro h
    have hbody : body = guardedBody tested statement := by
      have hdrop := h
      rw [doBody?_append, List.dropInfix?_eq_some_iff] at hdrop
      obtain ⟨⟨mark, hsplit, hmark⟩, -⟩ := hdrop
      obtain rfl : mark = ['$', '$'] := by simpa using hmark
      rw [List.append_assoc] at hsplit
      exact (List.append_cancel_right hsplit).symm
    exact ⟨hbody, (doBody?_block_iff ..).mp (hbody ▸ h)⟩
  · rintro ⟨rfl, h⟩
    exact (doBody?_block_iff ..).mpr h

/-- A text is a guarded block if its dollar signs stand where they should and its statement can be
read. -/
theorem readGuarded_block_eq_some_iff {text : String}
    (h : text.toList = "DO $$".toList ++ (guardedBody tested statement ++ "$$;".toList)) :
    readGuarded text = some g ↔
      dollarPairs tested.toList + dollarPairs statement.toList = 0 ∧ g.tested = tested ∧
        readCreateEnum (statement.toList ++ "\n    END IF;\nEND".toList) =
          some (g.created.toList, "\n    END IF;\nEND".toList) := by
  simp only [readGuarded, h, Option.bind_eq_bind, Option.bind_eq_some_iff]
  constructor
  · rintro ⟨⟨body, rest⟩, hbody, hread⟩
    split at hread
    · rename_i hrest
      obtain rfl : rest = [';'] := hrest
      obtain ⟨rfl, hpairs⟩ := doBody?_block_eq_some_iff.mp hbody
      exact ⟨hpairs, readGuardedBody_eq_some_iff.mp hread⟩
    · cases hread
  · rintro ⟨hpairs, hread⟩
    refine ⟨_, doBody?_block_eq_some_iff.mpr ⟨rfl, hpairs⟩, ?_⟩
    rw [if_pos rfl]
    exact readGuardedBody_eq_some_iff.mpr hread

end Block

section Text

variable {s : Settings} {e : EnumType} {text : String} {g : GuardedCreation}

theorem policy_eq_quoted_iff : s.policy = .quoted ↔ s.quoteIdentifiers = true := by
  cases h : s.quoteIdentifiers <;> simp [Settings.policy, IdentifierPolicy.ofFlag, h]

/-- The text of a guarded creation is read as a block that looks for the name of the enumeration. -/
theorem readGuarded_text_eq_some_iff
    (h : (Statement.createEnum e).text { s with guardEnumTypes := true } = .ok text) :
    readGuarded text = some g ↔
      e.IsPairFree ∧ g.tested = e.name ∧
        readCreateEnum (spelling (createEnum (s.policy.name e.name) e.values) ++
            "\n    END IF;\nEND".toList) =
          some (g.created.toList, "\n    END IF;\nEND".toList) := by
  obtain ⟨statement, hstatement⟩ := exists_createEnum_text_of_guarded h
  have hspelling := toList_of_createEnum_text hstatement
  have hpairs : dollarPairs e.name.toList + dollarPairs statement.toList = 0 ↔ e.IsPairFree := by
    have hvalues : dollarPairsIn (e.values.map String.toList) = 0 ↔
        ∀ v ∈ e.values, dollarPairs v.toList = 0 := by
      rw [dollarPairsIn_eq_zero_iff, List.forall_mem_map]
    simp only [EnumType.IsPairFree, ← dollarPairs_eq_zero_iff]
    rw [hspelling, dollarPairs_createEnum, ← hvalues]
    omega
  rw [readGuarded_block_eq_some_iff (toList_of_guarded_text h hstatement), hpairs, hspelling]

theorem name_ne_empty (e : EnumType) : e.name ≠ "" := by
  intro hname
  have hfits := e.name_fits
  rw [hname] at hfits
  exact absurd hfits (by decide)

/-- The block creates the type that the name denotes under the policy, where this can be read. -/
theorem readGuarded_text_eq_denoted_iff
    (h : (Statement.createEnum e).text { s with guardEnumTypes := true } = .ok text) :
    readGuarded text = some ⟨e.name, s.policy.denoted e.name⟩ ↔
      e.IsPairFree ∧ (s.quoteIdentifiers = true ∨ isWord e.name.toList = true) := by
  rw [readGuarded_text_eq_some_iff h, readCreateEnum_iff e.values_ne_nil _ fun x y hx =>
    readIdentifier_name_iff (name_ne_empty e) hx, policy_eq_quoted_iff]
  simp

/-- A guarded block looks for the name of the enumeration and creates the type that the identifier
denotes. It can be carried out again in every state of the catalogue exactly if no pair of dollar
signs ends it early and its name is quoted or a bare word without capitals. Of a bare word with
capitals it creates the type in small letters, which it does not find the next time. -/
theorem guarded_text_repeatable_iff (s : Settings) (e : EnumType) (text : String)
    (h : (Statement.createEnum e).text { s with guardEnumTypes := true } = .ok text) :
    (∀ g, readGuarded text = some g → g.tested = e.name ∧
        ((∀ types, (g.run types).bind g.run = g.run types) ↔ g.created = e.name)) ∧
      (readGuarded text = some ⟨e.name, s.policy.denoted e.name⟩ ↔
        e.IsPairFree ∧ (s.quoteIdentifiers = true ∨ isWord e.name.toList = true)) ∧
      ((∃ g, readGuarded text = some g ∧ ∀ types, (g.run types).bind g.run = g.run types) ↔
        e.IsPairFree ∧ (s.quoteIdentifiers = true ∨
          isWord e.name.toList = true ∧ lowerAscii e.name.toList = e.name.toList)) := by
  have hself := readCreateEnum_iff e.values_ne_nil "\n    END IF;\nEND".toList fun x y hx =>
    readIdentifier_name_self_iff (p := s.policy) (y := y) (name_ne_empty e) hx
  rw [policy_eq_quoted_iff] at hself
  refine ⟨fun g hg => ?_, readGuarded_text_eq_denoted_iff h, ?_⟩
  · obtain ⟨-, htested, -⟩ := (readGuarded_text_eq_some_iff h).mp hg
    refine ⟨htested, ?_⟩
    rw [GuardedCreation.bind_run_eq_self_iff, htested, eq_comm]
  · constructor
    · rintro ⟨g, hg, hrun⟩
      obtain ⟨hfree, htested, hcreated⟩ := (readGuarded_text_eq_some_iff h).mp hg
      have hname : g.created = e.name :=
        (GuardedCreation.bind_run_eq_self_iff.mp hrun).symm.trans htested
      exact ⟨hfree, hself.mp (hname ▸ hcreated)⟩
    · rintro ⟨hfree, hname⟩
      refine ⟨⟨e.name, e.name⟩, (readGuarded_text_eq_some_iff h).mpr ⟨hfree, rfl, ?_⟩, ?_⟩
      · exact hself.mpr hname
      · exact GuardedCreation.bind_run_eq_self_iff.mpr rfl

end Text

end Sql

namespace Sample

/-- A name with capitals, a space and quotes, and values with marks of both kinds of constants. -/
def orderStatus : EnumType :=
  ⟨"Order \"Status\"", ["it's", "US\\$", "$"], by decide, by decide⟩

/-- A name with a capital. -/
def status : EnumType :=
  ⟨"Status", ["open", "closed"], by decide, by decide⟩

/-- The statement that creates its type unless there is one. -/
def statusText : String :=
  "DO $$\nBEGIN\n" ++
  "    IF NOT EXISTS (SELECT 1 FROM pg_type WHERE typname = 'Status') THEN\n" ++
  "        CREATE TYPE Status AS ENUM ('open', 'closed');\n" ++
  "    END IF;\nEND$$;"

end Sample

namespace Sql

theorem orderStatus_text_repeatable :
    let s : Settings := { quoteIdentifiers := true }
    ∃ text,
      (Statement.createEnum Sample.orderStatus).text { s with guardEnumTypes := true } = .ok text ∧
      readGuarded text = some ⟨"Order \"Status\"", "Order \"Status\""⟩ ∧
      ∃ g, readGuarded text = some g ∧ ∀ types, (g.run types).bind g.run = g.run types := by
  intro s
  obtain ⟨text, htext⟩ : ∃ text, (Statement.createEnum Sample.orderStatus).text
      { s with guardEnumTypes := true } = .ok text := by
    rw [exists_createEnum_text_iff]
    decide +kernel
  have hfree : Sample.orderStatus.IsPairFree := by
    delta EnumType.IsPairFree
    decide +kernel
  obtain ⟨-, hread, hagain⟩ := guarded_text_repeatable_iff s Sample.orderStatus text htext
  exact ⟨text, htext, hread.mpr ⟨hfree, Or.inl rfl⟩, hagain.mpr ⟨hfree, Or.inl rfl⟩⟩

/-- A bare name with a capital is looked for as it is and created in small letters, so that the
block fails the second time. -/
theorem status_text_not_repeatable :
    (Statement.createEnum Sample.status).text { guardEnumTypes := true } = .ok Sample.statusText ∧
      readGuarded Sample.statusText = some ⟨"Status", "status"⟩ ∧
      (GuardedCreation.mk "Status" "status").run [] = some ["status"] ∧
      (GuardedCreation.mk "Status" "status").run ["status"] = none := by
  have htext : (Statement.createEnum Sample.status).text { guardEnumTypes := true } =
      .ok Sample.statusText := by
    decide +kernel
  have hfree : Sample.status.IsPairFree := by
    delta EnumType.IsPairFree
    decide +kernel
  have hread := (readGuarded_text_eq_denoted_iff (s := {}) htext).mpr ⟨hfree, Or.inr (by decide)⟩
  exact ⟨htext, hread, by decide, by decide⟩

end Sql

end TableSchema
