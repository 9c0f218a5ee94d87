import TableSchema.Proofs.Registry.Additions

/-!
# What a registry keeps of its history

After any run of operations a registry is made of the extensions that were asked for and of the
tables that were accepted, in their orders, and of nothing else. Operations that fail and add
nothing leave no trace, and the additions of extensions may be moved before all others.
-/

namespace TableSchema

namespace Operation

/-- The operation checks or generates and is not made to add anything. -/
def onlyReads : Operation → Bool
  | .validate | .generateSql | .generateTypescript | .generateDrop => true
  | _ => false

/-- The operation adds one extension. -/
def addsExtension : Operation → Bool
  | .addExtension _ => true
  | _ => false

/-- An operation as its additions in turn: a document as its extensions, then its tables. -/
def parts : Operation → List Operation
  | .load source d =>
    let ds := (Operation.load source d).declared
    ds.extensions.map .addExtension ++ [.addTables ds.tables]
  | op => [op]

/-- A run with its additions of extensions before all its other operations. -/
def extensionsFirst (ops : List Operation) : List Operation :=
  let additions := ops.flatMap parts
  additions.filter addsExtension ++ additions.filter fun op => !op.addsExtension

/-- The extensions that a run asks for. -/
def extensionsOf (ops : List Operation) : List String :=
  ops.flatMap (·.declared.extensions)

/-- The list of tables that an operation asks for, if it asks for any. -/
def batch (op : Operation) : List (List Table) :=
  if op.declared.tables = [] then [] else [op.declared.tables]

/-- The lists of tables that a run asks for. -/
def batchesOf (ops : List Operation) : List (List Table) :=
  ops.flatMap batch

end Operation

namespace Registry

open Operation

variable {r : Registry} {op : Operation} {ops : List Operation}

/-- The tables of several lists that are accepted, of each list up to the first that is refused. -/
def acceptedIn (known : List Table) : List (List Table) → List Table
  | [] => []
  | ts :: batches =>
    let added := accepted known ts
    added ++ acceptedIn (known ++ added.map Table.withDistinctKey) batches

/-- The tables that are accepted in a run on an empty registry. -/
def acceptedTables (ops : List Operation) : List Table :=
  acceptedIn [] (batchesOf ops)

/-- The registry that extensions and tables make: of the extensions the first occurrences, the tables
without repeats in their primary keys, and of the enumerations of their columns the first of each
name. -/
def ofAdditions (s : Settings) (ns : List String) (ts : List Table) : Registry where
  settings := s
  tables := ts.map Table.withDistinctKey
  extensions := firsts ns
  customTypes := keyed (firstEnums ts)

/-- An operation fails: it reports an error in place of a result. -/
def fails (r : Registry) : Operation → Bool
  | .addTable t => !(r.acceptAll [t]).2.isOk
  | .addTables ts => !(r.acceptAll ts).2.isOk
  | .load source d => !(r.load source d).2.isOk
  | .addExtension _ => false
  | .validate | .generateSql | .generateTypescript | .generateDrop => !r.issues.isEmpty

/-- An operation is idle if it only reads, or if it fails and adds no extension and no table. -/
def isIdle (r : Registry) (op : Operation) : Bool :=
  op.onlyReads ||
    (r.fails op && (r.perform op).extensions == r.extensions && (r.perform op).tables == r.tables)

/-- A run without the operations that are idle when their turn comes. -/
def withoutIdle (r : Registry) : List Operation → List Operation
  | [] => []
  | op :: ops =>
    if r.isIdle op then withoutIdle (r.perform op) ops
    else op :: withoutIdle (r.perform op) ops

/-! ## The registry as its additions -/

theorem addExtension_ofAdditions (s : Settings) (ns : List String) (ts : List Table) (n : String) :
    (ofAdditions s ns ts).addExtension n = ofAdditions s (ns ++ [n]) ts := by
  have hmem : (ofAdditions s ns ts).extensions.contains n = true ↔ n ∈ ns := by
    rw [List.contains_iff_mem]
    exact mem_firsts
  unfold addExtension
  by_cases hn : n ∈ ns
  · rw [if_pos (hmem.mpr hn), ofAdditions, ofAdditions, firsts_concat_of_mem hn]
  · rw [if_neg (mt hmem.mp hn), ofAdditions, ofAdditions, firsts_concat_of_notMem hn]

theorem addExtensions_ofAdditions (s : Settings) (ns ms : List String) (ts : List Table) :
    (ofAdditions s ns ts).addExtensions ms = ofAdditions s (ns ++ ms) ts := by
  induction ms generalizing ns with
  | nil => simp [addExtensions]
  | cons m ms ih =>
      calc
        (ofAdditions s ns ts).addExtensions (m :: ms)
          = ((ofAdditions s ns ts).addExtension m).addExtensions ms := rfl
        _ = (ofAdditions s (ns ++ [m]) ts).addExtensions ms := by rw [addExtension_ofAdditions]
        _ = ofAdditions s (ns ++ m :: ms) ts := by rw [ih, List.append_assoc, List.singleton_append]

theorem extend_ofAdditions (s : Settings) (ns : List String) (ts us : List Table) :
    (ofAdditions s ns ts).extend us = ofAdditions s ns (ts ++ us) := by
  simp only [extend, ofAdditions, firstEnums, registerEnums_keyed, List.map_append,
    List.flatMap_append]

/-- An operation joins its own additions to those that made the registry. -/
theorem perform_ofAdditions (s : Settings) (ns : List String) (ts : List Table) (op : Operation) :
    (ofAdditions s ns ts).perform op =
      ofAdditions s (ns ++ op.declared.extensions)
        (ts ++ accepted (ts.map Table.withDistinctKey) op.declared.tables) := by
  rw [perform_eq, addExtensions_ofAdditions, extend_ofAdditions]
  rfl

theorem acceptedIn_batch_append (known : List Table) (op : Operation)
    (batches : List (List Table)) :
    acceptedIn known (op.batch ++ batches) =
      accepted known op.declared.tables ++
        acceptedIn (known ++ (accepted known op.declared.tables).map Table.withDistinctKey)
          batches := by
  unfold batch
  by_cases h : op.declared.tables = []
  · simp [h]
  · simp [h, acceptedIn]

theorem foldl_perform_ofAdditions (s : Settings) (ns : List String) (ts : List Table)
    (ops : List Operation) :
    ops.foldl perform (ofAdditions s ns ts) =
      ofAdditions s (ns ++ extensionsOf ops)
        (ts ++ acceptedIn (ts.map Table.withDistinctKey) (batchesOf ops)) := by
  induction ops generalizing ns ts with
  | nil => simp [extensionsOf, batchesOf, acceptedIn]
  | cons op ops ih =>
      rw [List.foldl_cons, perform_ofAdditions, ih]
      simp only [extensionsOf, batchesOf, List.flatMap_cons, acceptedIn_batch_append,
        List.map_append, List.append_assoc]

/-- After a run a registry is made of the extensions that were asked for and of the tables that
were accepted. -/
theorem after_eq_ofAdditions (s : Settings) (ops : List Operation) :
    after s ops = ofAdditions s (extensionsOf ops) (acceptedTables ops) :=
  foldl_perform_ofAdditions s [] [] ops

/-! ## Runs with the same additions -/

theorem extensionsOf_parts (op : Operation) : extensionsOf op.parts = op.declared.extensions := by
  cases op with
  | load source d => simp [parts, extensionsOf, declared, List.flatMap_map]
  | _ => rfl

theorem batchesOf_parts (op : Operation) : batchesOf op.parts = op.batch := by
  cases op with
  | load source d =>
      have hextensions (ns : List String) : (ns.map Operation.addExtension).flatMap batch = [] := by
        rw [List.flatMap_eq_nil_iff]
        intro op hop
        obtain ⟨n, -, rfl⟩ := List.mem_map.mp hop
        rfl
      rw [parts, batchesOf, List.flatMap_append, hextensions, List.nil_append,
        List.flatMap_singleton]
      rfl
  | _ => simp [parts, batchesOf]

theorem batch_of_addsExtension (h : op.addsExtension = true) : op.batch = [] := by
  cases op with
  | addExtension n => rfl
  | _ => cases h

theorem extensions_of_mem_parts {p : Operation} (hp : p ∈ op.parts)
    (h : p.addsExtension = false) : p.declared.extensions = [] := by
  cases op with
  | load source d =>
      rcases List.mem_append.mp hp with hp | hp
      · obtain ⟨n, -, rfl⟩ := List.mem_map.mp hp
        cases h
      · rw [List.mem_singleton.mp hp]
        rfl
  | addExtension n =>
      rw [List.mem_singleton.mp hp] at h
      cases h
  | _ =>
      rw [List.mem_singleton.mp hp]
      rfl

/-- Elements that contribute nothing may be left out. -/
theorem flatMap_filter_eq {α β : Type} {p : α → Bool} {f : α → List β} {as : List α}
    (h : ∀ a ∈ as, p a = false → f a = []) : (as.filter p).flatMap f = as.flatMap f := by
  induction as with
  | nil => rfl
  | cons a as ih =>
      obtain ⟨ha, has⟩ := List.forall_mem_cons.mp h
      cases hp : p a with
      | false => rw [List.filter_cons_of_neg (by simp [hp]), ih has, List.flatMap_cons, ha hp,
          List.nil_append]
      | true => rw [List.filter_cons_of_pos hp, List.flatMap_cons, List.flatMap_cons, ih has]

theorem flatMap_filter_eq_nil {α β : Type} {p : α → Bool} {f : α → List β} {as : List α}
    (h : ∀ a ∈ as, p a = true → f a = []) : (as.filter p).flatMap f = [] := by
  rw [List.flatMap_eq_nil_iff]
  intro a ha
  obtain ⟨hmem, hp⟩ := List.mem_filter.mp ha
  exact h a hmem hp

/-- Moving the additions of extensions to the front changes neither their order nor that of the
tables. -/
theorem extensionsOf_extensionsFirst (ops : List Operation) :
    extensionsOf (extensionsFirst ops) = extensionsOf ops := by
  have hparts : ∀ p ∈ ops.flatMap parts, p.addsExtension = false → p.declared.extensions = [] := by
    intro p hp
    obtain ⟨op, -, hop⟩ := List.mem_flatMap.mp hp
    exact extensions_of_mem_parts hop
  calc
    extensionsOf (extensionsFirst ops)
      = (ops.flatMap parts).flatMap (·.declared.extensions) ++ [] := by
        rw [extensionsOf, extensionsFirst, List.flatMap_append, flatMap_filter_eq hparts,
          flatMap_filter_eq_nil fun p hp h => hparts p hp (by simpa using h)]
    _ = extensionsOf ops := by
        rw [List.append_nil, List.flatMap_assoc]
        exact congrArg (ops.flatMap ·) (funext extensionsOf_parts)

theorem batchesOf_extensionsFirst (ops : List Operation) :
    batchesOf (extensionsFirst ops) = batchesOf ops := by
  calc
    batchesOf (extensionsFirst ops) = [] ++ (ops.flatMap parts).flatMap batch := by
        rw [batchesOf, extensionsFirst, List.flatMap_append,
          flatMap_filter_eq_nil fun p _ => batch_of_addsExtension,
          flatMap_filter_eq fun p _ h => batch_of_addsExtension (by simpa using h)]
    _ = batchesOf ops := by
        rw [List.nil_append, List.flatMap_assoc]
        exact congrArg (ops.flatMap ·) (funext batchesOf_parts)

theorem after_extensionsFirst (s : Settings) (ops : List Operation) :
    after s (extensionsFirst ops) = after s ops := by
  rw [after_eq_ofAdditions, after_eq_ofAdditions, acceptedTables, acceptedTables,
    extensionsOf_extensionsFirst, batchesOf_extensionsFirst]

/-! ## Idle operations -/

/-- An idle operation leaves no trace: with no table of its own it has no enumerations either. -/
theorem perform_of_isIdle (h : r.isIdle op = true) : r.perform op = r := by
  rcases Bool.or_eq_true_iff.mp h with hreads | hfails
  · cases op with
    | validate | generateSql | generateTypescript | generateDrop => rfl
    | _ => cases hreads
  · simp only [Bool.and_eq_true, beq_iff_eq] at hfails
    obtain ⟨⟨-, hextensions⟩, htables⟩ := hfails
    have hnone : accepted r.tables op.declared.tables = [] := by
      rw [tables_perform] at htables
      simpa using htables
    obtain ⟨es, hes⟩ := exists_addExtensions_eq r op.declared.extensions
    rw [perform_eq, hnone, extend_nil, hes] at hextensions ⊢
    obtain rfl : es = [] := by simpa using hextensions
    rw [List.append_nil]

theorem foldl_perform_withoutIdle (r : Registry) (ops : List Operation) :
    (r.withoutIdle ops).foldl perform r = ops.foldl perform r := by
  induction ops generalizing r with
  | nil => rfl
  | cons op ops ih =>
      by_cases h : r.isIdle op = true
      · rw [withoutIdle, if_pos h, List.foldl_cons, perform_of_isIdle h]
        exact perform_of_isIdle h ▸ ih (r.perform op)
      · rw [withoutIdle, if_neg h, List.foldl_cons, List.foldl_cons, ih]

/-- What a run leaves behind is made of the extensions that were asked for and the tables that were
accepted, in their orders. Idle operations may be left out and the additions of extensions moved to
the front, and nothing that is registered is changed or removed later. -/
theorem performAll_eq_ofAdditions (s : Settings) (ops later : List Operation)
    (before now : Log.Trace) :
    let r := ((Session.performAll { settings := s } ops).run before).1
    let essential := withoutIdle { settings := s } ops
    r = ofAdditions s (extensionsOf ops) (acceptedTables ops) ∧
      ((Session.performAll { settings := s } essential).run now).1 = r ∧
      ((Session.performAll { settings := s } (extensionsFirst essential)).run now).1 = r ∧
      r.IsExtendedBy ((Session.performAll r later).run now).1 := by
  intro r essential
  have hr : r = after s ops := Session.performAll_run_fst before s ops
  have hessential : after s essential = r := (foldl_perform_withoutIdle _ ops).trans hr.symm
  refine ⟨?_, ?_, ?_, ?_⟩
  · rw [hr, after_eq_ofAdditions]
  · rw [Session.performAll_run_fst, hessential]
  · rw [Session.performAll_run_fst, after_extensionsFirst, hessential]
  · rw [Session.performAll_run_fst_foldl]
    exact isExtendedBy_foldl_perform r later

end Registry

end TableSchema
