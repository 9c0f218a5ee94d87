import TableSchema.Proofs.Outcomes
import TableSchema.Sql.Script

/-!
# The texts of scripts

A script is laid out from the texts of its statements, one text for each statement in the order of
the statements. It fails if one of them has no text, with the fault of the first such statement.
-/

namespace TableSchema.Sql

variable {s : Settings} {sts sts' : List Statement} {parts : List String}

/-- The texts of statements are there if every statement has one. -/
theorem texts_eq_ok_iff :
    texts s sts = .ok parts ↔ List.Forall₂ (fun st part => st.text s = .ok part) sts parts :=
  mapM_eq_ok_iff

theorem texts_append :
    texts s (sts ++ sts') =
      (texts s sts).bind fun parts => (texts s sts').bind fun rest => .ok (parts ++ rest) :=
  List.mapM_append

/-- The create script made of the texts of its statements, where so many statements create
extensions and so many enumerations. -/
def createLayout (s : Settings) (extensions types : Nat) (parts : List String) : String :=
  s.wrap (banner s) (Text.joinBlocks
    ["\n".intercalate (parts.take extensions),
      "\n".intercalate ((parts.drop extensions).take types),
      "\n\n".intercalate ((parts.drop extensions).drop types)] "\n\n")

/-- The create script holds the texts of its statements in their order. -/
theorem createScript_eq (s : Settings) (tables : List Table) (extensions : List String)
    (types : CustomTypes) :
    createScript s tables extensions types =
      (texts s (createStatements tables extensions types)).map
        (createLayout s extensions.length types.length) := by
  rw [createStatements, texts_append, texts_append, createScript, preludeBlocks]
  cases hextensions : texts s (extensionStatements extensions) with
  | error f => rfl
  | ok es =>
      cases htypes : texts s (enumStatements types) with
      | error f => rfl
      | ok cs =>
          cases htables : texts s (tableStatements tables) with
          | error f => rfl
          | ok ts =>
              have hes : es.length = extensions.length := by
                simpa [extensionStatements] using (texts_eq_ok_iff.mp hextensions).length_eq.symm
              have hcs : cs.length = types.length := by
                simpa [enumStatements] using (texts_eq_ok_iff.mp htypes).length_eq.symm
              simp [Except.map, Except.bind, bind, pure, Except.pure, createLayout, ← hes, ← hcs]

end TableSchema.Sql
