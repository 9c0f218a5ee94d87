import TableSchema.Proofs.Sql.Spelling
import TableSchema.Sql.Script

/-!
# What a create script shows of a schema

A create script shows of a table its name, its columns and its keys. It hides the name of the record
type, the values of enumerations that columns use, and whether an action that does nothing was
asked for. The statements of plain tables, which have no text that is written verbatim, are spelled
out here under quoted names.
-/

namespace TableSchema

namespace ColumnDefault

/-- The default is a constant without a fraction. -/
def isPlain : ColumnDefault → Bool
  | .literal (.bool _) | .literal (.int _) | .literal (.text _) => true
  | .literal (.float _) | .expression _ => false

end ColumnDefault

/-- The name is a text, and the default, if there is one, is plain. -/
def Column.IsPlain (c : Column) : Prop :=
  c.nameText?.isSome = true ∧ ∀ d ∈ c.default, d.isPlain = true

instance (c : Column) : Decidable c.IsPlain :=
  inferInstanceAs (Decidable (_ ∧ _))

theorem Column.IsPlain.name_eq {c : Column} (h : c.IsPlain) :
    c.name = .text (c.nameText?.getD "") := by
  obtain ⟨hname, -⟩ := h
  unfold nameText? at hname ⊢
  split at hname
  · assumption
  · cases hname

/-- The columns are plain, and there are no check constraints. -/
def Table.IsPlain (t : Table) : Prop :=
  t.constraints = [] ∧ ∀ c ∈ t.columns, c.IsPlain

instance (t : Table) : Decidable t.IsPlain :=
  inferInstanceAs (Decidable (_ ∧ _))

/-- The key with both of its actions. -/
def ForeignKey.withActions (k : ForeignKey) : ForeignKey :=
  { k with onDelete := some k.deleteAction, onUpdate := some k.updateAction }

namespace Sql

/-- A column without the values of its enumeration. -/
structure ColumnOutline where
  name : Atom
  type : TypeIdentity
  nullable : Bool
  default : Option ColumnDefault
deriving DecidableEq, Repr

/-- A table without the name of its record type and its check constraints. -/
structure TableOutline where
  name : String
  columns : List ColumnOutline
  primaryKeys : List String
  foreignKeys : List ForeignKey
deriving DecidableEq, Repr

end Sql

/-- What a create script shows of a column. -/
def Column.outline (c : Column) : Sql.ColumnOutline :=
  ⟨c.name, c.type.identity, c.nullable, c.default⟩

/-- What a create script shows of a table. -/
def Table.outline (t : Table) : Sql.TableOutline :=
  ⟨t.name, t.columns.map Column.outline, t.primaryKeys, t.foreignKeys.map ForeignKey.withActions⟩

namespace Sql

open Fragment

/-- A clause that is written after the columns. -/
inductive Clause where
  | primaryKey (columns : List String)
  | foreignKey (key : ForeignKey)
deriving DecidableEq, Repr

namespace Clause

/-- The fragments of a clause. -/
def fragments : Clause → Fragments
  | .primaryKey columns => Sql.primaryKey .quoted columns
  | .foreignKey k => Sql.foreignKey .quoted k

/-- What a create script shows of a clause. -/
def outline : Clause → Clause
  | .primaryKey columns => .primaryKey columns
  | .foreignKey k => .foreignKey k.withActions

end Clause

/-- The keys of a table as clauses. -/
def clauses (t : Table) : List Clause :=
  (if t.primaryKeys.isEmpty then [] else [.primaryKey t.primaryKeys]) ++
    t.foreignKeys.map .foreignKey

/-- The fragment of a constant. -/
def constantFragment : Constant → Fragment
  | .bool b => verbatim (if b then "TRUE" else "FALSE")
  | .int n => verbatim (toString n)
  | .float x => verbatim x.text
  | .text s => literal s

/-- The fragments of the clause of a default. -/
def defaultFragments : Option ColumnDefault → Fragments
  | none => []
  | some (.literal v) => [verbatim " DEFAULT ", constantFragment v]
  | some (.expression s) => [verbatim " DEFAULT ", verbatim s]

/-- The fragments that say that null is not allowed. -/
def nullableFragments (nullable : Bool) : Fragments :=
  if nullable then [] else [verbatim " NOT NULL"]

/-- The fragments of a column. -/
def columnFragments (c : Column) : Fragments :=
  [identifier (c.nameText?.getD ""), verbatim " ", typeName .quoted c.type] ++
    nullableFragments c.nullable ++ defaultFragments c.default

/-- The fragments of clauses, with an empty line before them. -/
def clauseBlock (indent : String) (cs : List Clause) : Fragments :=
  if cs.isEmpty then []
  else verbatim ",\n\n" :: joinWith ",\n" (cs.map fun c => verbatim indent :: c.fragments)

/-- The fragments of the statement that creates a plain table. -/
def tableFragments (indent : String) (t : Table) : Fragments :=
  [verbatim "CREATE TABLE IF NOT EXISTS ", identifier t.name, verbatim " (\n"] ++
    (joinWith ",\n" (t.columns.map fun c => verbatim indent :: columnFragments c) ++
      clauseBlock indent (clauses t)) ++ [verbatim "\n);"]

section Hidden

/-- Lists that show the same have the same images under what depends on the shown only. -/
theorem map_eq_map_of_factorsThrough {α β γ : Type} [Nonempty γ] {f : α → β} {g : α → γ}
    (hg : g.FactorsThrough f) {as bs : List α} (h : as.map f = bs.map f) :
    as.map g = bs.map g := by
  obtain ⟨e, rfl⟩ := (Function.factorsThrough_iff g).mp hg
  rw [← List.map_map, ← List.map_map, h]

theorem typeName_eq_of_identity_eq {a b : ValueType} (h : a.identity = b.identity) :
    typeName .quoted a = typeName .quoted b := by
  cases a <;> cases b <;>
    simp_all [typeName, IdentifierPolicy.name, ValueType.identity, ValueType.sqlName,
      CharacterType.sqlName]

theorem columnFragments_eq_of_outline_eq {c d : Column} (h : c.outline = d.outline) :
    columnFragments c = columnFragments d := by
  simp only [Column.outline, ColumnOutline.mk.injEq] at h
  obtain ⟨hname, htype, hnullable, hdefault⟩ := h
  have hnames : c.nameText? = d.nameText? := by rw [Column.nameText?, hname, Column.nameText?]
  rw [columnFragments, columnFragments, hnames, typeName_eq_of_identity_eq htype, hnullable,
    hdefault]

theorem map_outline_clauses (t : Table) :
    (clauses t).map Clause.outline =
      (if t.primaryKeys.isEmpty then [] else [.primaryKey t.primaryKeys]) ++
        (t.foreignKeys.map ForeignKey.withActions).map .foreignKey := by
  rw [clauses, List.map_append, List.map_map, List.map_map]
  cases t.primaryKeys.isEmpty <;> rfl

theorem clauseBlock_map_outline (indent : String) (cs : List Clause) :
    clauseBlock indent (cs.map Clause.outline) = clauseBlock indent cs := by
  have hfragments (c : Clause) : c.outline.fragments = c.fragments := by
    cases c <;> rfl
  rw [clauseBlock, clauseBlock, List.isEmpty_map, List.map_map]
  simp only [Function.comp_def, hfragments]

/-- What is not in the outline is not in the statement. -/
theorem tableFragments_eq_of_outline_eq (indent : String) {t u : Table}
    (h : t.outline = u.outline) : tableFragments indent t = tableFragments indent u := by
  simp only [Table.outline, TableOutline.mk.injEq] at h
  obtain ⟨hname, hcolumns, hprimary, hforeign⟩ := h
  have hlines : t.columns.map (fun c => verbatim indent :: columnFragments c) =
      u.columns.map fun c => verbatim indent :: columnFragments c :=
    map_eq_map_of_factorsThrough
      (fun _ _ hcd => congrArg (verbatim indent :: ·) (columnFragments_eq_of_outline_eq hcd))
      hcolumns
  rw [tableFragments, tableFragments, hname, hlines, ← clauseBlock_map_outline indent (clauses t),
    ← clauseBlock_map_outline indent (clauses u), map_outline_clauses, map_outline_clauses,
    hprimary, hforeign]

end Hidden

theorem eq_toString_of_integerText {n : Int} {t : String} (h : Number.integerText n = .ok t) :
    t = toString n := by
  unfold Number.integerText at h
  split at h
  · cases h
  · exact (Except.ok.inj h).symm

theorem defaultExpression_eq {d : ColumnDefault} {f : Fragment} (h : defaultExpression d = .ok f) :
    [verbatim " DEFAULT ", f] = defaultFragments (some d) := by
  unfold defaultExpression at h
  split at h
  · obtain rfl := Except.ok.inj h
    rfl
  · obtain rfl := Except.ok.inj h
    rfl
  · obtain rfl := Except.ok.inj h
    rfl
  · obtain rfl := Except.ok.inj h
    rfl
  · split at h
    · rename_i t ht
      obtain rfl := Except.ok.inj h
      rw [eq_toString_of_integerText ht]
      rfl
    · cases h

theorem defaultClause_eq {d : Option ColumnDefault} {fs : Fragments}
    (h : defaultClause d = .ok fs) : fs = defaultFragments d := by
  cases d with
  | none =>
      have hnone : defaultClause none = .ok [] := rfl
      rw [hnone] at h
      exact (Except.ok.inj h).symm
  | some d =>
      have hmap : defaultClause (some d) =
          (defaultExpression d).map fun f => [verbatim " DEFAULT ", f] := rfl
      obtain ⟨f, hf, rfl⟩ := map_eq_ok_iff.mp (hmap ▸ h)
      exact defaultExpression_eq hf

theorem columnDefinition_eq {c : Column} {fs : Fragments}
    (h : columnDefinition .quoted c = .ok fs) : fs = columnFragments c := by
  obtain ⟨name, type, nullable, default⟩ := c
  cases name with
  | text n =>
      have hmap : columnDefinition .quoted ⟨.text n, type, nullable, default⟩ =
          (defaultClause default).map fun ds =>
            [identifier n, verbatim " ", typeName .quoted type] ++
              (if nullable then [] else [verbatim " NOT NULL"]) ++ ds := rfl
      obtain ⟨ds, hds, rfl⟩ := map_eq_ok_iff.mp (hmap ▸ h)
      rw [defaultClause_eq hds]
      rfl
  | _ => simp [columnDefinition, columnName, bind, Except.bind] at h

theorem map_columnDefinition_eq {cs : List Column} {parts : List Fragments}
    (h : cs.mapM (columnDefinition .quoted) = .ok parts) : parts = cs.map columnFragments := by
  have hall := mapM_eq_ok_iff.mp h
  clear h
  induction hall with
  | nil => rfl
  | cons hc _ ih => rw [List.map_cons, columnDefinition_eq hc, ih]

theorem constraintDefinitions_eq {t : Table} (h : t.constraints = []) :
    constraintDefinitions .quoted t = (clauses t).map Clause.fragments := by
  rw [constraintDefinitions, clauses, h, List.map_nil, List.append_nil, List.map_append,
    List.map_map]
  cases t.primaryKeys.isEmpty <;> rfl

theorem tableDefinition_eq {s : Settings} (hs : s.policy = .quoted) {t : Table}
    (ht : t.constraints = []) {fs : Fragments} (h : tableDefinition s t = .ok fs) :
    fs = tableFragments s.sqlIndentText t := by
  have hmap : tableDefinition s t = (t.columns.mapM (columnDefinition s.policy)).map fun parts =>
      [verbatim "CREATE TABLE IF NOT EXISTS ", s.policy.name t.name, verbatim " (\n"] ++
        (joinWith ",\n" (parts.map (verbatim s.sqlIndentText :: ·)) ++
          (if (constraintDefinitions s.policy t).isEmpty then []
          else verbatim ",\n\n" :: joinWith ",\n"
            ((constraintDefinitions s.policy t).map (verbatim s.sqlIndentText :: ·)))) ++
        [verbatim "\n);"] := rfl
  rw [hs, constraintDefinitions_eq ht] at hmap
  obtain ⟨parts, hparts, rfl⟩ := map_eq_ok_iff.mp (hmap ▸ h)
  rw [map_columnDefinition_eq hparts, tableFragments, clauseBlock, List.isEmpty_map,
    List.map_map, List.map_map]
  rfl

end Sql

end TableSchema
