import TableSchema.Proofs.Sql.Clauses
import TableSchema.Proofs.Text.Layout

/-!
# Create statements can be told apart

The lines of a table are told apart from its columns to its closing parenthesis, and the create
statements by their first words and by what follows them.
-/

namespace TableSchema.Sql

open Fragment Text

section Lines

/-- The text begins a line that is neither empty nor a comma. -/
def BeginsLine (x : List Char) : Prop :=
  ∃ c cs, x = c :: cs ∧ c ≠ ',' ∧ c ≠ '\n'

theorem BeginsLine.indent {x : List Char} (h : BeginsLine x) (n : Nat) :
    BeginsLine ((spaces n).toList ++ x) := by
  cases n with
  | zero => simpa [spaces] using h
  | succ n =>
      exact ⟨' ', _, by rw [spaces, String.toList_ofList, List.replicate_succ]; rfl, by decide⟩

/-- What follows the lines of a table: its closing parenthesis or an empty line. -/
def EndsLines (x : List Char) : Prop :=
  "\n);".toList <+: x ∨ ",\n\n".toList <+: x

namespace EndsLines

variable {x l : List Char}

theorem endsLine (h : EndsLines x) : EndsLine x := by
  rcases h with ⟨z, rfl⟩ | ⟨z, rfl⟩
  · exact Or.inr (by simp)
  · exact Or.inl (by simp)

theorem ne_line (h : EndsLines x) (hl : BeginsLine l) (z : List Char) : x ≠ l ++ z := by
  obtain ⟨c, cs, rfl, hcomma, hbreak⟩ := hl
  exact h.endsLine.ne_append rfl hcomma hbreak

theorem ne_next (h : EndsLines x) (hl : BeginsLine l) (z : List Char) :
    x ≠ ",\n".toList ++ (l ++ z) := by
  obtain ⟨c, cs, rfl, -, hbreak⟩ := hl
  rcases h with ⟨y, rfl⟩ | ⟨y, rfl⟩
  · simp
  · simp [hbreak.symm]

end EndsLines

variable {α β : Type} {allowed : α → Prop} {fragments : α → Fragments} {view : α → β}
  {ends : List Char → Prop} (n : Nat)

/-- Lines with a comma after each but the last. -/
theorem unambiguous_lines (h : Unambiguous allowed (fun a => spelling (fragments a)) view ends)
    (hbegins : ∀ a, allowed a → BeginsLine (spelling (fragments a)))
    (hends : ∀ x, EndsLine x → ends x) :
    Unambiguous (∀ a ∈ ·, allowed a)
      (fun as => spelling (joinWith ",\n" (as.map fun a => verbatim (spaces n) :: fragments a)))
      (List.map view) EndsLines := by
  have hlines (as : List α) :
      spelling (joinWith ",\n" (as.map fun a => verbatim (spaces n) :: fragments a)) =
        ",\n".toList.intercalate (as.map fun a => (spaces n).toList ++ spelling (fragments a)) := by
    rw [spelling_joinWith, List.map_map]
    rfl
  simp only [hlines]
  refine (h.after (spaces n).toList).intercalate ",\n".toList ?_ ?_ ?_ ?_
  · exact fun z => hends _ (Or.inl (by simp))
  · exact fun x hx => hends x hx.endsLine
  · exact fun a x z ha hx => hx.ne_line ((hbegins a ha).indent n) z
  · exact fun a x z ha hx => hx.ne_next ((hbegins a ha).indent n) z

theorem unambiguous_columns :
    Unambiguous (∀ c ∈ ·, c.IsPlain)
      (fun cs =>
        spelling (joinWith ",\n" (cs.map fun c => verbatim (spaces n) :: columnFragments c)))
      (List.map Column.outline) EndsLines :=
  unambiguous_lines n unambiguous_column
    (fun c _ => ⟨'"', _, spelling_columnFragments c, by decide⟩) fun _ h => h

theorem beginsLine_clause (c : Clause) : BeginsLine (spelling c.fragments) := by
  cases c with
  | primaryKey ns => exact ⟨'P', _, rfl, by decide⟩
  | foreignKey k => exact ⟨'F', _, rfl, by decide⟩

theorem endsLines_clauseBlock (cs : List Clause) {x : List Char} (hx : "\n);".toList <+: x) :
    EndsLines (spelling (clauseBlock (spaces n) cs) ++ x) := by
  cases cs with
  | nil => exact Or.inl hx
  | cons c cs => exact Or.inr (by simp [clauseBlock])

/-- The block of the keys, which is left out if there are none. -/
theorem unambiguous_clauseBlock :
    Unambiguous (fun _ => True) (fun cs => spelling (clauseBlock (spaces n) cs))
      (List.map Clause.outline) ("\n);".toList <+: ·) := by
  have hlines := (unambiguous_lines n unambiguous_clause (fun c _ => beginsLine_clause c)
    fun _ _ => trivial).after ",\n\n".toList
  have hcons (c : Clause) (cs : List Clause) : spelling (clauseBlock (spaces n) (c :: cs)) =
      ",\n\n".toList ++ spelling (joinWith ",\n"
        ((c :: cs).map fun c => verbatim (spaces n) :: c.fragments)) := rfl
  have hnil (c : Clause) (cs : List Clause) (x y : List Char) (hx : "\n);".toList <+: x) :
      x ≠ spelling (clauseBlock (spaces n) (c :: cs)) ++ y := by
    obtain ⟨z, rfl⟩ := hx
    simp [hcons]
  intro as bs x y _ _ hx hy h
  dsimp only at h
  cases as with
  | nil =>
      cases bs with
      | nil => exact ⟨rfl, h⟩
      | cons b bs => exact absurd h (hnil b bs x y hx)
  | cons a as =>
      cases bs with
      | nil => exact absurd h.symm (hnil a as y x hy)
      | cons b bs =>
          rw [hcons, hcons] at h
          exact hlines (fun _ _ => trivial) (fun _ _ => trivial) (Or.inl hx) (Or.inl hy) h

end Lines

section Tables

theorem spelling_tableFragments (indent : String) (t : Table) :
    spelling (tableFragments indent t) = "CREATE TABLE IF NOT EXISTS ".toList ++
      (identifierChars t.name.toList ++ (" (\n".toList ++
        (spelling (joinWith ",\n" (t.columns.map fun c => verbatim indent :: columnFragments c)) ++
          (spelling (clauseBlock indent (clauses t)) ++ "\n);".toList)))) := by
  simp [tableFragments]

/-- A plain table is told apart before everything. -/
theorem unambiguous_table (n : Nat) :
    Unambiguous Table.IsPlain (fun t => spelling (tableFragments (spaces n) t)) Table.outline
      fun _ => True := by
  simp only [spelling_tableFragments]
  have hblock := ((unambiguous_clauseBlock n).comap clauses).before "\n);".toList
  have hlines := ((unambiguous_columns n).comap Table.columns).append hblock fun t x _ hx => by
    rw [List.append_assoc]
    exact endsLines_clauseBlock n (clauses t) hx
  have htable := (unambiguous_identifier.comap Table.name).append (hlines.after " (\n".toList)
    fun _ _ _ _ => by simp
  refine (htable.after "CREATE TABLE IF NOT EXISTS ".toList).mono
    (fun t ht => ⟨trivial, ht.2, trivial⟩) (fun x _ => List.prefix_append _ x) fun t u _ _ h => ?_
  simp only [id, Prod.mk.injEq] at h
  obtain ⟨hname, hcolumns, hclauses⟩ := h
  obtain ⟨hprimary, hforeign⟩ := keys_eq_of_outline hclauses
  rw [Table.outline, Table.outline, hname, hcolumns, hprimary, hforeign]

end Tables

section Kinds

theorem unambiguous_createExtension :
    Unambiguous (fun _ => True) (fun n => spelling (createExtension n)) id fun _ => True := by
  have hspelling (n : String) : spelling (createExtension n) =
      "CREATE EXTENSION IF NOT EXISTS ".toList ++ (identifierChars n.toList ++ ";".toList) := by
    simp [createExtension]
  simp only [hspelling]
  exact ((unambiguous_identifier.before ";".toList).after _).mono (fun _ h => h)
    (fun _ _ => by simp) fun _ _ _ _ h => h

theorem unambiguous_createEnum :
    Unambiguous (fun _ => True)
      (fun t : EnumType => spelling (createEnum (identifier t.name) t.values)) id
      fun _ => True := by
  have hspelling (t : EnumType) : spelling (createEnum (identifier t.name) t.values) =
      "CREATE TYPE ".toList ++ (identifierChars t.name.toList ++ (" AS ENUM (".toList ++
        (spelling (enumValues t.values) ++ ");".toList))) := by
    simp [createEnum]
  simp only [hspelling]
  have hvalues := (unambiguous_enumValues.comap EnumType.values).before ");".toList
  have hname := (unambiguous_identifier.comap EnumType.name).append
    (hvalues.after " AS ENUM (".toList) fun _ _ _ _ => by simp
  refine (hname.after "CREATE TYPE ".toList).mono (fun _ _ => ⟨trivial, trivial⟩)
    (fun _ _ => by simp) ?_
  rintro ⟨_, _, _, _⟩ ⟨_, _, _, _⟩ _ _ h
  simpa using h

/-- What a create script shows of a statement. -/
inductive Shown where
  | extension (name : String)
  | enumeration (type : EnumType)
  | table (outline : TableOutline)
deriving DecidableEq, Repr

namespace Statement

/-- What a create script shows of the statement, if it creates something. -/
def shown? : Statement → Option Shown
  | .createExtension n => some (.extension n)
  | .createEnum t => some (.enumeration t)
  | .createTable t => some (.table t.outline)
  | .dropTable _ | .dropType _ | .dropExtension _ => none

/-- The statement creates an extension, an enumeration or a plain table. -/
inductive IsPlain : Statement → Prop
  | createExtension (n : String) : IsPlain (.createExtension n)
  | createEnum (t : EnumType) : IsPlain (.createEnum t)
  | createTable {t : Table} : t.IsPlain → IsPlain (.createTable t)

/-- The fragments of the statement under quoted names, without guards. -/
def fragments (indent : String) : Statement → Fragments
  | .createExtension n => Sql.createExtension n
  | .createEnum t => Sql.createEnum (identifier t.name) t.values
  | .createTable t => tableFragments indent t
  | .dropTable n => Sql.dropTable .quoted n
  | .dropType n => Sql.dropType .quoted n
  | .dropExtension n => Sql.dropExtension n

theorem compose_eq {s : Settings} (hs : s.policy = .quoted) (hguard : s.guardEnumTypes = false)
    {st : Statement} (hst : st.IsPlain) {fs : Fragments} (h : st.compose s = .ok fs) :
    fs = st.fragments s.sqlIndentText := by
  cases hst with
  | createExtension n => exact (Except.ok.inj h).symm
  | createEnum t =>
      have hfs : enumDefinition s t = fs := Except.ok.inj h
      rw [← hfs, enumDefinition, hguard, hs]
      rfl
  | createTable ht => exact tableDefinition_eq hs ht.1 h

theorem toList_text {s : Settings} (hs : s.policy = .quoted) (hguard : s.guardEnumTypes = false)
    {st : Statement} (hst : st.IsPlain) {part : String} (h : st.text s = .ok part) :
    part.toList = spelling (st.fragments s.sqlIndentText) := by
  rw [text] at h
  cases hfs : st.compose s with
  | error f =>
      rw [hfs] at h
      cases h
  | ok fs =>
      rw [hfs] at h
      rw [← compose_eq hs hguard hst hfs]
      exact toList_of_render h

theorem beginsPart {st : Statement} (hst : st.IsPlain) (indent : String) :
    BeginsPart (spelling (st.fragments indent)) := by
  cases hst with
  | createExtension n => exact ⟨'C', _, rfl, by decide⟩
  | createEnum t => exact ⟨'C', _, rfl, by decide⟩
  | createTable _ => exact ⟨'C', _, rfl, by decide⟩

end Statement

/-- Create statements are told apart before everything. -/
theorem unambiguous_statement (n : Nat) :
    Unambiguous Statement.IsPlain (fun st => spelling (st.fragments (spaces n))) Statement.shown?
      fun _ => True := by
  -- The words before the name show what is created.
  have hextensionEnum (m : String) (t : EnumType) (x y : List Char) :
      spelling (createExtension m) ++ x ≠
        spelling (createEnum (identifier t.name) t.values) ++ y := by
    simp [createExtension, createEnum]
  have hextensionTable (m : String) (t : Table) (x y : List Char) :
      spelling (createExtension m) ++ x ≠ spelling (tableFragments (spaces n) t) ++ y := by
    simp [createExtension, tableFragments]
  have henumTable (t : EnumType) (u : Table) (x y : List Char) :
      spelling (createEnum (identifier t.name) t.values) ++ x ≠
        spelling (tableFragments (spaces n) u) ++ y := by
    simp [createEnum, tableFragments]
  intro a b x y ha hb _ _ h
  cases ha with
  | createExtension m =>
      cases hb with
      | createExtension l =>
          obtain ⟨hml, hxy⟩ := unambiguous_createExtension trivial trivial trivial trivial h
          exact ⟨congrArg (some ∘ Shown.extension) hml, hxy⟩
      | createEnum u => exact absurd h (hextensionEnum m u x y)
      | @createTable u _ => exact absurd h (hextensionTable m u x y)
  | createEnum t =>
      cases hb with
      | createExtension l => exact absurd h.symm (hextensionEnum l t y x)
      | createEnum u =>
          obtain ⟨htu, hxy⟩ := unambiguous_createEnum trivial trivial trivial trivial h
          exact ⟨congrArg (some ∘ Shown.enumeration) htu, hxy⟩
      | @createTable u _ => exact absurd h (henumTable t u x y)
  | @createTable t ht =>
      cases hb with
      | createExtension l => exact absurd h.symm (hextensionTable l t y x)
      | createEnum u => exact absurd h.symm (henumTable u t y x)
      | createTable hu =>
          obtain ⟨htu, hxy⟩ := unambiguous_table n ht hu trivial trivial h
          exact ⟨congrArg (some ∘ Shown.table) htu, hxy⟩

end Kinds

end TableSchema.Sql
