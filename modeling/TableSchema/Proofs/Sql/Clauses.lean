import TableSchema.Proofs.Sql.Outline

/-!
# Parts of statements can be told apart

The parts of a create statement are unambiguous before what may follow them: lists of names and of
string constants in parentheses, value types, constants, columns, and the clauses after the columns.
Where several kinds of part may stand, the first character that differs shows the kind.
-/

namespace TableSchema.Sql

open Fragment Text

section Lists

theorem head_identifierChars (cs : List Char) : (identifierChars cs).head? = some '"' := rfl

theorem head_literalChars (cs : List Char) :
    (literalChars cs).head? = some ' ' ∨ (literalChars cs).head? = some '\'' := by
  by_cases h : '\\' ∈ cs
  · exact Or.inl (by rw [literalChars_of_mem h]; rfl)
  · exact Or.inr (by rw [literalChars_of_notMem h]; rfl)

theorem ne_append_of_head {as x z : List Char} {c d : Char} (hx : x.head? = some d)
    (ha : as.head? = some c) (hne : c ≠ d) : x ≠ as ++ z := by
  rintro rfl
  rw [List.head?_append, ha] at hx
  exact hne (Option.some.inj hx)

/-- Fragments with commas between them are told apart before a closing parenthesis. -/
theorem unambiguous_separated {fragment : String → Fragment} {ends : List Char → Prop}
    (h : Unambiguous (fun _ => True) (fun s => (fragment s).chars) id ends)
    (hcomma : ∀ x, x.head? = some ',' → ends x) (hclose : ∀ x, x.head? = some ')' → ends x)
    (hhead : ∀ s, ∃ c, (fragment s).chars.head? = some c ∧ c ≠ ')') :
    Unambiguous (fun _ => True)
      (fun ss : List String => spelling (joinWith ", " (ss.map fun s => [fragment s]))) id
      (·.head? = some ')') := by
  have hspelling (ss : List String) :
      spelling (joinWith ", " (ss.map fun s => [fragment s])) =
        ", ".toList.intercalate (ss.map fun s => (fragment s).chars) := by
    rw [spelling_joinWith, List.map_map]
    simp [Function.comp_def]
  simp only [hspelling]
  refine (h.intercalate ", ".toList ?_ ?_ ?_ ?_).mono (fun _ _ _ _ => trivial) (fun _ h => h)
    (fun _ _ _ _ h => by simpa using h)
  · exact fun z => hcomma _ (by simp)
  · exact hclose
  · intro s x z _ hx
    obtain ⟨c, hc, hne⟩ := hhead s
    exact ne_append_of_head hx hc hne
  · intro s x z _ hx
    exact ne_append_of_head hx rfl (by decide)

theorem unambiguous_names :
    Unambiguous (fun _ => True) (fun ns => spelling (IdentifierPolicy.quoted.names ns)) id
      (·.head? = some ')') :=
  unambiguous_separated unambiguous_identifier (fun x hx => by simp [hx])
    (fun x hx => by simp [hx]) fun n => ⟨'"', head_identifierChars _, by decide⟩

theorem unambiguous_enumValues :
    Unambiguous (fun _ => True) (fun vs => spelling (enumValues vs)) id (·.head? = some ')') := by
  refine unambiguous_separated unambiguous_literal (fun x hx => by simp [hx])
    (fun x hx => by simp [hx]) fun v => ?_
  rcases head_literalChars v.toList with hv | hv
  · exact ⟨' ', hv, by decide⟩
  · exact ⟨'\'', hv, by decide⟩

end Lists

section Types

/-- The characters that show the kind of a value type. -/
def kindChars : ValueKind → List Char
  | .scalar k => k.sqlName.toList
  | .character k => k.sqlName.toList ++ ['(']
  | .userDefined => ['"']

/-- What is written of a value type after the characters of its kind. -/
def restChars : ValueType → List Char
  | .scalar _ => []
  | .character t => (toString t.length).toList ++ [')']
  | .enumeration t => doubled '"' t.name.toList ++ ['"']

theorem chars_typeName (t : ValueType) :
    (typeName .quoted t).chars = kindChars t.kind ++ restChars t := by
  cases t with
  | scalar k => simp [typeName, ValueType.sqlName, ValueType.kind, kindChars, restChars]
  | character t =>
      simp [typeName, ValueType.sqlName, CharacterType.sqlName, ValueType.kind, kindChars,
        restChars]
  | enumeration t => rfl

theorem mem_members_valueKind (k : ValueKind) : k ∈ Vocabulary.members := by
  cases k with
  | userDefined => decide
  | scalar k => cases k <;> decide
  | character k => cases k <;> decide

/-- No kind's characters begin those of another kind. -/
theorem unambiguous_kindChars :
    Unambiguous (fun _ => True) kindChars id fun _ => True := by
  refine unambiguous_of_prefix fun k l _ _ h => ?_
  have hfree : ∀ k ∈ (Vocabulary.members : List ValueKind), ∀ l ∈ Vocabulary.members,
      kindChars k <+: kindChars l → k = l := by
    decide
  exact hfree k (mem_members_valueKind k) l (mem_members_valueKind l) h

/-- The name of a type shows the type up to the values of an enumeration. -/
theorem unambiguous_typeName :
    Unambiguous (fun _ => True) (fun t => (typeName .quoted t).chars) ValueType.identity
      (·.head? ≠ some '"') := by
  intro a b x y _ _ hx hy h
  dsimp only at h
  rw [chars_typeName, chars_typeName, List.append_assoc, List.append_assoc] at h
  obtain ⟨hkind, h⟩ := unambiguous_kindChars trivial trivial trivial trivial h
  cases a with
  | scalar k =>
      cases b with
      | scalar l => exact ⟨congrArg TypeIdentity.scalar (ValueKind.scalar.inj hkind), h⟩
      | character u => cases hkind
      | enumeration u => cases hkind
  | character t =>
      cases b with
      | scalar l => cases hkind
      | character u =>
          simp only [restChars, List.append_assoc] at h
          obtain ⟨hlength, h⟩ := unambiguous_nat trivial trivial (by simp) (by simp) h
          have htu : t.kind = u.kind := ValueKind.character.inj hkind
          exact ⟨congrArg₂ TypeIdentity.character htu hlength, List.append_cancel_left h⟩
      | enumeration u => cases hkind
  | enumeration t =>
      cases b with
      | scalar l => cases hkind
      | character u => cases hkind
      | enumeration u =>
          simp only [restChars, List.append_assoc, List.singleton_append] at h
          obtain ⟨hname, h⟩ := doubled_append_cancel hx hy h
          exact ⟨congrArg TypeIdentity.enumeration (String.toList_inj.mp hname), h⟩

end Types

section Constants

/-- What a constant is: a truth value, a number or a text. -/
inductive ConstantMark where
  | word
  | numeral
  | quote
deriving DecidableEq, Repr

/-- What a constant is by its first character. -/
def markOf (c : Char) : ConstantMark :=
  if c.isDigit ∨ c = '-' then .numeral else if c = 'T' ∨ c = 'F' then .word else .quote

/-- What a constant is. -/
def constantMark : Constant → ConstantMark
  | .bool _ => .word
  | .int _ | .float _ => .numeral
  | .text _ => .quote

theorem exists_head_toString_int (n : Int) :
    ∃ c, (toString n).toList.head? = some c ∧ (c.isDigit ∨ c = '-') := by
  cases n with
  | ofNat n =>
      obtain ⟨c, cs, hcs, hc⟩ := exists_head_toString_nat n
      exact ⟨c, congrArg List.head? hcs, Or.inl hc⟩
  | negSucc n => exact ⟨'-', by rw [toList_toString_negSucc]; rfl, Or.inr rfl⟩

/-- The first character of a constant shows what the constant is. -/
theorem exists_head_constantFragment {v : Constant} (hv : (ColumnDefault.literal v).isPlain) :
    ∃ c, (constantFragment v).chars.head? = some c ∧ markOf c = constantMark v := by
  cases v with
  | bool b => cases b <;> exact ⟨_, rfl, by decide⟩
  | float x => cases hv
  | int n =>
      obtain ⟨c, hhead, hc⟩ := exists_head_toString_int n
      exact ⟨c, hhead, if_pos hc⟩
  | text s =>
      rcases head_literalChars s.toList with h | h
      · exact ⟨' ', h, rfl⟩
      · exact ⟨'\'', h, rfl⟩

theorem constantMark_eq_of_append_eq {v w : Constant} (hv : (ColumnDefault.literal v).isPlain)
    (hw : (ColumnDefault.literal w).isPlain) {x y : List Char}
    (h : (constantFragment v).chars ++ x = (constantFragment w).chars ++ y) :
    constantMark v = constantMark w := by
  obtain ⟨c, hc, hcv⟩ := exists_head_constantFragment hv
  obtain ⟨d, hd, hdw⟩ := exists_head_constantFragment hw
  have hhead := congrArg List.head? h
  rw [List.head?_append, List.head?_append, hc, hd] at hhead
  obtain rfl : c = d := Option.some.inj hhead
  exact hcv.symm.trans hdw

theorem unambiguous_bool :
    Unambiguous (fun _ : Bool => True) (fun b => (constantFragment (.bool b)).chars) id
      fun _ => True :=
  unambiguous_of_prefix (by decide)

/-- The end of a column's line: a comma or a line break. -/
def EndsLine (x : List Char) : Prop :=
  x.head? = some ',' ∨ x.head? = some '\n'

theorem EndsLine.head?_ne {x : List Char} (h : EndsLine x) {c : Char} (hcomma : c ≠ ',')
    (hbreak : c ≠ '\n') : x.head? ≠ some c := by
  intro hc
  rcases h with h | h <;> rw [hc] at h
  · exact hcomma (Option.some.inj h)
  · exact hbreak (Option.some.inj h)

theorem EndsLine.head_not_digit {x : List Char} (h : EndsLine x) :
    ∀ c ∈ x.head?, c.isDigit = false := by
  intro c hc
  rcases h with h | h <;> rw [h] at hc <;> obtain rfl := Option.mem_some.mp hc <;> rfl

theorem EndsLine.ne_append {x : List Char} (h : EndsLine x) {as z : List Char} {c : Char}
    (ha : as.head? = some c) (hcomma : c ≠ ',') (hbreak : c ≠ '\n') : x ≠ as ++ z := by
  rcases h with h | h
  · exact ne_append_of_head h ha hcomma
  · exact ne_append_of_head h ha hbreak

/-- Constants without a fraction are told apart at the end of a line. -/
theorem unambiguous_constant :
    Unambiguous (fun v => (ColumnDefault.literal v).isPlain) (fun v => (constantFragment v).chars)
      id EndsLine := by
  intro a b x y ha hb hx hy h
  have hmark := constantMark_eq_of_append_eq ha hb h
  cases a with
  | float x => cases ha
  | bool v =>
      cases b with
      | bool w =>
          obtain ⟨hvw, hxy⟩ := unambiguous_bool trivial trivial trivial trivial h
          exact ⟨congrArg Constant.bool hvw, hxy⟩
      | float y => cases hb
      | int n => cases hmark
      | text t => cases hmark
  | int m =>
      cases b with
      | int n =>
          obtain ⟨hmn, hxy⟩ :=
            unambiguous_int trivial trivial hx.head_not_digit hy.head_not_digit h
          exact ⟨congrArg Constant.int hmn, hxy⟩
      | float y => cases hb
      | bool w => cases hmark
      | text t => cases hmark
  | text s =>
      cases b with
      | text t =>
          obtain ⟨hst, hxy⟩ := unambiguous_literal trivial trivial
            (hx.head?_ne (by decide) (by decide)) (hy.head?_ne (by decide) (by decide)) h
          exact ⟨congrArg Constant.text hst, hxy⟩
      | float y => cases hb
      | bool w => cases hmark
      | int n => cases hmark

end Constants

section Columns

/-- The clause of a default is told apart at the end of a line, and so is its absence. -/
theorem unambiguous_default :
    Unambiguous (fun d => ∀ e ∈ d, e.isPlain) (fun d => spelling (defaultFragments d)) id
      EndsLine := by
  -- A default that is no constant is not plain.
  have hsome (e : ColumnDefault) (he : e.isPlain) : ∃ v, e = .literal v := by
    cases e with
    | literal v => exact ⟨v, rfl⟩
    | expression s => cases he
  have hspelling (v : Constant) : spelling (defaultFragments (some (.literal v))) =
      " DEFAULT ".toList ++ (constantFragment v).chars := by
    simp [defaultFragments]
  intro a b x y ha hb hx hy h
  dsimp only at h
  cases a with
  | none =>
      cases b with
      | none => exact ⟨rfl, h⟩
      | some e =>
          obtain ⟨w, rfl⟩ := hsome e (hb e rfl)
          rw [hspelling, List.append_assoc] at h
          exact absurd h (hx.ne_append rfl (by decide) (by decide))
  | some d =>
      obtain ⟨v, rfl⟩ := hsome d (ha d rfl)
      cases b with
      | none =>
          rw [hspelling, List.append_assoc] at h
          exact absurd h.symm (hy.ne_append rfl (by decide) (by decide))
      | some e =>
          obtain ⟨w, rfl⟩ := hsome e (hb e rfl)
          rw [hspelling, hspelling] at h
          obtain ⟨hvw, hxy⟩ := unambiguous_constant.after " DEFAULT ".toList (ha _ rfl) (hb _ rfl)
            hx hy h
          exact ⟨congrArg (some ∘ ColumnDefault.literal) hvw, hxy⟩

/-- What may follow the word on null. -/
def EndsNullable (x : List Char) : Prop :=
  EndsLine x ∨ " DEFAULT ".toList <+: x

theorem EndsNullable.head?_ne {x : List Char} (h : EndsNullable x) : x.head? ≠ some '"' := by
  rcases h with h | ⟨z, rfl⟩
  · exact h.head?_ne (by decide) (by decide)
  · simp

theorem EndsNullable.ne_append {x : List Char} (h : EndsNullable x) (z : List Char) :
    x ≠ " NOT NULL".toList ++ z := by
  rcases h with h | ⟨y, rfl⟩
  · exact h.ne_append rfl (by decide) (by decide)
  · simp

theorem endsNullable_default (d : Option ColumnDefault) {x : List Char} (hx : EndsLine x) :
    EndsNullable (spelling (defaultFragments d) ++ x) := by
  cases d with
  | none => exact Or.inl hx
  | some d =>
      refine Or.inr ?_
      cases d <;> simp [defaultFragments]

theorem unambiguous_nullable :
    Unambiguous (fun _ => True) (fun b => spelling (nullableFragments b)) id EndsNullable := by
  have hfalse : spelling (nullableFragments false) = " NOT NULL".toList := by
    simp [nullableFragments]
  intro a b x y _ _ hx hy h
  dsimp only at h
  cases a <;> cases b
  · exact ⟨rfl, List.append_cancel_left h⟩
  · rw [hfalse] at h
    exact absurd h.symm (hy.ne_append x)
  · rw [hfalse] at h
    exact absurd h (hx.ne_append y)
  · exact ⟨rfl, h⟩

theorem spelling_columnFragments (c : Column) :
    spelling (columnFragments c) = identifierChars (c.nameText?.getD "").toList ++
      (" ".toList ++ ((typeName .quoted c.type).chars ++
        (spelling (nullableFragments c.nullable) ++ spelling (defaultFragments c.default)))) := by
  simp [columnFragments]

/-- A plain column is told apart at the end of its line. -/
theorem unambiguous_column :
    Unambiguous Column.IsPlain (fun c => spelling (columnFragments c)) Column.outline
      EndsLine := by
  simp only [spelling_columnFragments]
  have hsuffix := (unambiguous_nullable.comap Column.nullable).append
    (unambiguous_default.comap Column.default) fun c _ _ hx => endsNullable_default c.default hx
  have htype := (unambiguous_typeName.comap Column.type).append hsuffix fun c x _ hx => by
    have hdefault := endsNullable_default c.default hx
    rw [List.append_assoc]
    cases c.nullable
    · simp [nullableFragments]
    · exact hdefault.head?_ne
  refine ((unambiguous_identifier.comap fun c : Column => c.nameText?.getD "").append
    (htype.after " ".toList) fun c x _ _ => by simp).mono
    (fun c hc => ⟨trivial, trivial, trivial, hc.2⟩) (fun _ h => h) fun c d hc hd h => ?_
  simp only [id, Prod.mk.injEq] at h
  obtain ⟨hname, htype, hnullable, hdefault⟩ := h
  have hnames : c.name = d.name := by rw [hc.name_eq, hd.name_eq, hname]
  rw [Column.outline, Column.outline, hnames, htype, hnullable, hdefault]

end Columns

section Keys

/-- No referential action begins another in SQL. -/
theorem unambiguous_action :
    Unambiguous (fun _ => True) (fun a : ReferentialAction => (Vocabulary.word a).toList) id
      fun _ => True := by
  refine unambiguous_of_prefix fun a b _ _ h => ?_
  cases a <;> cases b <;> revert h <;> decide

theorem unambiguous_primaryKey :
    Unambiguous (fun _ => True) (fun ns => spelling (primaryKey .quoted ns)) id fun _ => True := by
  have hspelling (ns : List String) : spelling (primaryKey .quoted ns) =
      "PRIMARY KEY (".toList ++ (spelling (IdentifierPolicy.quoted.names ns) ++ ")".toList) := by
    simp [primaryKey]
  simp only [hspelling]
  exact ((unambiguous_names.before ")".toList).after "PRIMARY KEY (".toList).mono
    (fun _ h => h) (fun _ _ => by simp) fun _ _ _ _ h => h

theorem spelling_foreignKey (k : ForeignKey) :
    spelling (foreignKey .quoted k) =
      "FOREIGN KEY (".toList ++ (spelling (IdentifierPolicy.quoted.names k.localColumns) ++
        (") REFERENCES ".toList ++ (identifierChars k.table.toList ++
          (" (".toList ++ (spelling (IdentifierPolicy.quoted.names k.foreignColumns) ++
            (") ON DELETE ".toList ++ ((Vocabulary.word k.deleteAction).toList ++
              (" ON UPDATE ".toList ++ (Vocabulary.word k.updateAction).toList)))))))) := by
  simp [foreignKey, IdentifierPolicy.name]

/-- The pairs of columns are those of the two lists of columns. -/
theorem columns_eq_of_names {k l : ForeignKey} (hlocal : k.localColumns = l.localColumns)
    (hforeign : k.foreignColumns = l.foreignColumns) : k.columns = l.columns := by
  have hpairs : k.columns.map (fun r => (r.localName, r.foreignName)) =
      l.columns.map fun r => (r.localName, r.foreignName) := by
    rw [← List.zip_map', ← List.zip_map']
    exact congrArg₂ List.zip hlocal hforeign
  refine List.map_injective_iff.mpr ?_ hpairs
  rintro ⟨_, _, _, _⟩ ⟨_, _, _, _⟩ h
  simpa using h

theorem withActions_eq {k l : ForeignKey} (htable : k.table = l.table)
    (hcolumns : k.columns = l.columns) (hdelete : k.deleteAction = l.deleteAction)
    (hupdate : k.updateAction = l.updateAction) : k.withActions = l.withActions := by
  cases k
  cases l
  simp_all [ForeignKey.withActions]

/-- A foreign key is told apart up to an action that is missing and one that does nothing. -/
theorem unambiguous_foreignKey :
    Unambiguous (fun _ => True) (fun k => spelling (foreignKey .quoted k)) ForeignKey.withActions
      fun _ => True := by
  simp only [spelling_foreignKey]
  have hactions := (unambiguous_action.comap ForeignKey.deleteAction).append
    ((unambiguous_action.comap ForeignKey.updateAction).after " ON UPDATE ".toList)
    fun _ _ _ _ => trivial
  have hforeign := (unambiguous_names.comap ForeignKey.foreignColumns).append
    (hactions.after ") ON DELETE ".toList) fun _ _ _ _ => by simp
  have htable := (unambiguous_identifier.comap ForeignKey.table).append
    (hforeign.after " (".toList) fun _ _ _ _ => by simp
  have hlocal := (unambiguous_names.comap ForeignKey.localColumns).append
    (htable.after ") REFERENCES ".toList) fun _ _ _ _ => by simp
  refine (hlocal.after "FOREIGN KEY (".toList).mono
    (fun _ _ => ⟨trivial, trivial, trivial, trivial, trivial⟩) (fun _ h => h) fun k l _ _ h => ?_
  simp only [id, Prod.mk.injEq] at h
  obtain ⟨hlocal, htable, hforeign, hdelete, hupdate⟩ := h
  exact withActions_eq htable (columns_eq_of_names hlocal hforeign) hdelete hupdate

/-- A clause is told apart before everything; its first character shows which key it is. -/
theorem unambiguous_clause :
    Unambiguous (fun _ => True) (fun c => spelling (Clause.fragments c)) Clause.outline
      fun _ => True := by
  have hkinds (ns : List String) (k : ForeignKey) (x y : List Char) :
      spelling (primaryKey .quoted ns) ++ x ≠ spelling (foreignKey .quoted k) ++ y := by
    simp [primaryKey, foreignKey]
  intro a b x y _ _ _ _ h
  cases a with
  | primaryKey ns =>
      cases b with
      | primaryKey ms =>
          obtain ⟨hnames, hxy⟩ := unambiguous_primaryKey trivial trivial trivial trivial h
          exact ⟨congrArg Clause.primaryKey hnames, hxy⟩
      | foreignKey k => exact absurd h (hkinds ns k x y)
  | foreignKey k =>
      cases b with
      | primaryKey ms => exact absurd h.symm (hkinds ms k y x)
      | foreignKey l =>
          obtain ⟨hkeys, hxy⟩ := unambiguous_foreignKey trivial trivial trivial trivial h
          exact ⟨congrArg Clause.foreignKey hkeys, hxy⟩

/-- The clauses of a table show its keys. -/
theorem keys_eq_of_outline {t u : Table}
    (h : (clauses t).map Clause.outline = (clauses u).map Clause.outline) :
    t.primaryKeys = u.primaryKeys ∧
      t.foreignKeys.map ForeignKey.withActions = u.foreignKeys.map ForeignKey.withActions := by
  have hkeys : Function.Injective (List.map Clause.foreignKey) :=
    List.map_injective_iff.mpr fun _ _ => Clause.foreignKey.inj
  rw [map_outline_clauses, map_outline_clauses] at h
  -- A foreign key first says that there is no primary key.
  cases ht : t.primaryKeys with
  | nil =>
      cases hu : u.primaryKeys with
      | nil => exact ⟨rfl, hkeys (by simpa [ht, hu] using h)⟩
      | cons m ms => cases hk : t.foreignKeys <;> simp [ht, hu, hk] at h
  | cons n ns =>
      cases hu : u.primaryKeys with
      | nil => cases hk : u.foreignKeys <;> simp [ht, hu, hk] at h
      | cons m ms =>
          simp only [ht, hu, List.isEmpty_cons, Bool.false_eq_true, if_false,
            List.singleton_append, List.cons.injEq, Clause.primaryKey.injEq] at h
          exact ⟨by simpa using h.1, hkeys h.2⟩

end Keys

end TableSchema.Sql
