import TableSchema.Proofs.Registry.Soundness

/-!
# What operations add

Every operation asks for extensions and for tables, perhaps for none. The extensions are all added;
the tables are added up to the first that is refused, and whether a table is refused is decided by
the registered tables alone. So the extensions and the tables of a registry grow side by side, and
its enumerations follow its tables.
-/

namespace TableSchema

/-- What an operation asks for; a document that cannot be read asks for nothing. -/
def Operation.declared : Operation → Declarations
  | .addExtension n => ⟨[n], []⟩
  | .addTable t => ⟨[], [t]⟩
  | .addTables ts => ⟨[], ts⟩
  | .load _ d =>
    match Document.read d with
    | .ok ds => ds
    | .error _ => ⟨[], []⟩
  | .validate | .generateSql | .generateTypescript | .generateDrop => ⟨[], []⟩

namespace Registry

open Validation

variable {r : Registry} {t : Table} {ts us known : List Table}

/-- Why a table is refused after the tables that are registered, if it is. -/
def refusal? (known : List Table) (t : Table) : Option RegistrationError :=
  if t.name ∈ known.map (·.name) then some (.duplicateTable t.name)
  else
    match tableIssues known t.withDistinctKey with
    | [] => none
    | i :: is => some (.invalid (i :: is))

/-- The tables of a list that are accepted: those before the first that is refused. -/
def accepted (known : List Table) : List Table → List Table
  | [] => []
  | t :: ts =>
    match refusal? known t with
    | none => t :: accepted (known ++ [t.withDistinctKey]) ts
    | some _ => []

/-- Why the first refused table of a list is refused. -/
def firstRefusal? (known : List Table) : List Table → Option RegistrationError
  | [] => none
  | t :: ts =>
    match refusal? known t with
    | none => firstRefusal? (known ++ [t.withDistinctKey]) ts
    | some e => some e

/-- The registry with extensions, each added once. -/
def addExtensions (r : Registry) (ns : List String) : Registry :=
  ns.foldl addExtension r

/-- The registry with tables at its end and the enumerations of their columns, unchecked. -/
def extend (r : Registry) (ts : List Table) : Registry :=
  { r with
    tables := r.tables ++ ts.map Table.withDistinctKey
    customTypes := registerEnums r.customTypes (ts.flatMap (·.columnEnums)) }

@[simp] theorem extend_nil (r : Registry) : r.extend [] = r := by
  simp [extend, registerEnums]

@[simp] theorem tables_extend (r : Registry) (ts : List Table) :
    (r.extend ts).tables = r.tables ++ ts.map Table.withDistinctKey := rfl

@[simp] theorem extensions_extend (r : Registry) (ts : List Table) :
    (r.extend ts).extensions = r.extensions := rfl

theorem extend_append (r : Registry) (t : Table) (ts : List Table) :
    (r.append t.withDistinctKey).extend ts = r.extend (t :: ts) := by
  simp [append, extend, registerEnums, Table.withDistinctKey, Table.columnEnums]

@[simp] theorem accepted_nil (known : List Table) : accepted known [] = [] := rfl

theorem exists_addExtension_eq (r : Registry) (n : String) :
    ∃ es, r.addExtension n = { r with extensions := r.extensions ++ es } := by
  unfold addExtension
  split
  · exact ⟨[], by simp⟩
  · exact ⟨[n], rfl⟩

/-- Extensions are put at the end and leave all else alone. -/
theorem exists_addExtensions_eq (r : Registry) (ns : List String) :
    ∃ es, r.addExtensions ns = { r with extensions := r.extensions ++ es } := by
  induction ns generalizing r with
  | nil => exact ⟨[], by simp [addExtensions]⟩
  | cons n ns ih =>
      obtain ⟨es, hes⟩ := exists_addExtension_eq r n
      obtain ⟨es', hes'⟩ := ih (r.addExtension n)
      refine ⟨es ++ es', ?_⟩
      calc
        r.addExtensions (n :: ns) = (r.addExtension n).addExtensions ns := rfl
        _ = { r with extensions := r.extensions ++ (es ++ es') } := by
          rw [hes', hes, List.append_assoc]

@[simp] theorem tables_addExtensions (r : Registry) (ns : List String) :
    (r.addExtensions ns).tables = r.tables := by
  obtain ⟨es, hes⟩ := exists_addExtensions_eq r ns
  rw [hes]

@[simp] theorem settings_addExtensions (r : Registry) (ns : List String) :
    (r.addExtensions ns).settings = r.settings := by
  obtain ⟨es, hes⟩ := exists_addExtensions_eq r ns
  rw [hes]

/-! ## Accepted tables -/

theorem accept_eq (r : Registry) (t : Table) :
    r.accept t =
      match refusal? r.tables t with
      | none => .ok (r.append t.withDistinctKey)
      | some e => .error e := by
  unfold accept refusal?
  by_cases hname : t.name ∈ r.tables.map (·.name)
  · rw [if_pos hname, if_pos (contains_iff.mpr hname)]
  · rw [if_neg hname, if_neg (mt contains_iff.mp hname)]
    cases h : tableIssues r.tables t.withDistinctKey with
    | nil => simp only [h]
    | cons i is => simp only [h]

/-- The accepted tables are added, and the first refusal is the answer. -/
theorem acceptAll_eq (r : Registry) (ts : List Table) :
    r.acceptAll ts =
      (r.extend (accepted r.tables ts),
        match firstRefusal? r.tables ts with
        | none => .ok ()
        | some e => .error e) := by
  induction ts generalizing r with
  | nil => simp [acceptAll, accepted, firstRefusal?]
  | cons t ts ih =>
      rw [acceptAll, accept_eq, accepted, firstRefusal?]
      cases refusal? r.tables t with
      | none =>
          simp only
          rw [ih, extend_append, tables_append]
      | some e => simp

/-- A list is accepted as a whole, or it splits at the first table that is refused. -/
theorem accepted_cases (known ts : List Table) :
    (accepted known ts = ts ∧ firstRefusal? known ts = none) ∨
      ∃ before t after e, ts = before ++ t :: after ∧ accepted known ts = before ∧
        firstRefusal? known ts = some e ∧
          refusal? (known ++ before.map Table.withDistinctKey) t = some e := by
  induction ts generalizing known with
  | nil => exact Or.inl ⟨rfl, rfl⟩
  | cons t ts ih =>
      cases hr : refusal? known t with
      | some e =>
          refine Or.inr ⟨[], t, ts, e, rfl, ?_, ?_, ?_⟩
          · rw [accepted, hr]
          · rw [firstRefusal?, hr]
          · simpa using hr
      | none =>
          rcases ih (known ++ [t.withDistinctKey]) with
            ⟨hall, hnone⟩ | ⟨before, u, after, e, hts, hbefore, hfirst, hu⟩
          · refine Or.inl ⟨?_, ?_⟩
            · rw [accepted, hr]
              exact congrArg (t :: ·) hall
            · rw [firstRefusal?, hr]
              exact hnone
          · refine Or.inr ⟨t :: before, u, after, e, ?_, ?_, ?_, ?_⟩
            · rw [hts, List.cons_append]
            · rw [accepted, hr]
              exact congrArg (t :: ·) hbefore
            · rw [firstRefusal?, hr]
              exact hfirst
            · rw [List.map_cons, ← List.singleton_append, ← List.append_assoc]
              exact hu

/-! ## One operation -/

/-- An operation adds the extensions that it asks for and those of its tables that are accepted. -/
theorem perform_eq (r : Registry) (op : Operation) :
    r.perform op =
      (r.addExtensions op.declared.extensions).extend (accepted r.tables op.declared.tables) := by
  have hdeclared (ds : Declarations) :
      ((r.addExtensions ds.extensions).acceptAll ds.tables).1 =
        (r.addExtensions ds.extensions).extend (accepted r.tables ds.tables) := by
    rw [acceptAll_eq, tables_addExtensions]
  cases op with
  | addExtension n => exact (extend_nil _).symm
  | addTable t => exact hdeclared ⟨[], [t]⟩
  | addTables ts => exact hdeclared ⟨[], ts⟩
  | load source d =>
      cases h : Document.read d with
      | error f => simp [perform, load, Operation.declared, h, addExtensions]
      | ok ds =>
          simp only [perform, load, Operation.declared, h]
          exact hdeclared ds
  | validate | generateSql | generateTypescript | generateDrop => exact (extend_nil _).symm

theorem tables_perform (r : Registry) (op : Operation) :
    (r.perform op).tables =
      r.tables ++ (accepted r.tables op.declared.tables).map Table.withDistinctKey := by
  rw [perform_eq, tables_extend, tables_addExtensions]

theorem prefix_registerEnums (types : Sql.CustomTypes) (es : List EnumType) :
    types <+: registerEnums types es := by
  induction es generalizing types with
  | nil => exact List.prefix_rfl
  | cons e es ih =>
      have hfirst : types <+: registerEnum types e := by
        unfold registerEnum
        split
        · exact List.prefix_rfl
        · exact List.prefix_append _ _
      exact hfirst.trans (ih _)

/-- The registry holds what another one holds, and perhaps more after it. -/
structure IsExtendedBy (r r' : Registry) : Prop where
  tables : r.tables <+: r'.tables
  extensions : r.extensions <+: r'.extensions
  customTypes : r.customTypes <+: r'.customTypes

theorem isExtendedBy_refl (r : Registry) : r.IsExtendedBy r :=
  ⟨List.prefix_rfl, List.prefix_rfl, List.prefix_rfl⟩

theorem IsExtendedBy.trans {r' r'' : Registry} (h : r.IsExtendedBy r')
    (h' : r'.IsExtendedBy r'') : r.IsExtendedBy r'' where
  tables := h.tables.trans h'.tables
  extensions := h.extensions.trans h'.extensions
  customTypes := h.customTypes.trans h'.customTypes

/-- An operation changes nothing that is registered and removes nothing. -/
theorem isExtendedBy_perform (r : Registry) (op : Operation) : r.IsExtendedBy (r.perform op) := by
  obtain ⟨es, hes⟩ := exists_addExtensions_eq r op.declared.extensions
  rw [perform_eq, hes]
  constructor
  · exact List.prefix_append _ _
  · exact List.prefix_append _ _
  · exact prefix_registerEnums _ _

theorem isExtendedBy_foldl_perform (r : Registry) (ops : List Operation) :
    r.IsExtendedBy (ops.foldl perform r) := by
  induction ops generalizing r with
  | nil => exact isExtendedBy_refl r
  | cons op ops ih => exact (isExtendedBy_perform r op).trans (ih _)

end Registry

end TableSchema
