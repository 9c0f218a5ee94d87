import TableSchema.Proofs.Document.Written
import TableSchema.Proofs.Registry.Loads

/-!
# Loading and direct registration

A document that declares extensions and tables does the same to a registry as adding them one by one.
So the document of extensions and tables that were written out leads to the registry of the direct
registration, and all generators give the same from either.
-/

namespace TableSchema

open Validation
open Written (Expressible)

namespace Registry

variable {s : Settings} {ts : List Table}

/-- Tables that an empty registry takes are taken whatever extensions it has. -/
theorem accepted_of_registersAll {trace : Log.Trace} (h : RegistersAll s trace ts) :
    accepted [] ts = ts ∧ firstRefusal? [] ts = none := by
  have hok := h.1
  rw [Session.addTables_run_fst, acceptAll_eq] at hok
  rcases accepted_cases [] ts with hall | ⟨earlier, refused, later, e, -, -, hfirst, -⟩
  · exact hall
  · simp [hfirst] at hok

/-- The document of extensions and tables is loaded as a whole, and the registry is the one of the
direct registration: it has the same tables, extensions and enumerations, and every generator has
the same outcome. -/
theorem load_document_eq (s : Settings) (ns : List String) (ts : List Table) (source : String)
    (before now : Log.Trace) (hr : RegistersAll s before ts) (hx : Expressible ts) :
    let direct := ((Session.performAll { settings := s }
      (ns.map .addExtension ++ [.addTables ts])).run before).1
    let loaded := ((Session.load { settings := s } source (Written.document ns ts)).run now).1
    loaded = (direct, .ok ()) ∧ direct.tables = ts.map Table.withDistinctKey ∧
      ∀ trace trace',
        ((Session.generateSql loaded.1).run trace).1 =
            ((Session.generateSql direct).run trace').1 ∧
          ((Session.generateTypescript loaded.1).run trace).1 =
            ((Session.generateTypescript direct).run trace').1 ∧
          ((Session.generateDrop loaded.1).run trace).1 =
            ((Session.generateDrop direct).run trace').1 := by
  intro direct loaded
  obtain ⟨hall, hnone⟩ := accepted_of_registersAll hr
  have hread := Document.read_written ns ((registersAll_iff s before ts).mp hr).1 hx
  have hload : load { settings := s } source (Written.document ns ts) =
      ((addExtensions { settings := s } ns).extend ts, .ok ()) := by
    rw [load_eq _ source hread, hall, hnone]
  have hdirect : direct = (addExtensions { settings := s } ns).extend ts :=
    calc
      direct = (ns.map Operation.addExtension ++ [Operation.addTables ts]).foldl perform
          { settings := s } := Session.performAll_run_fst_foldl _ before _
      _ = (load { settings := s } source (Written.document ns ts)).1 :=
          foldl_perform_declarations _ source hread
      _ = (addExtensions { settings := s } ns).extend ts := by rw [hload]
  have hloaded : loaded = (direct, .ok ()) :=
    (Session.load_run_fst _ now source _).trans (hload.trans (by rw [hdirect]))
  have hissues : direct.issues = [] := (isSound_performAll s _ before).issues_eq_nil
  refine ⟨hloaded, ?_, fun trace trace' => ?_⟩
  · rw [hdirect, tables_extend, tables_addExtensions, List.nil_append]
  · rw [hloaded]
    refine ⟨?_, ?_, ?_⟩
    · rw [Session.generateSql_run_fst trace hissues, Session.generateSql_run_fst trace' hissues]
    · rw [Session.generateTypescript_run_fst trace hissues,
        Session.generateTypescript_run_fst trace' hissues]
    · rw [Session.generateDrop_run_fst trace hissues, Session.generateDrop_run_fst trace' hissues]

end Registry

namespace Sample

/-- Articles with every kind of field; they refer to accounts as orders do. -/
def articles : Table where
  name := "articles"
  typeName := "Article"
  columns := [⟨.text "id", .scalar .uuid, false, some (.expression "gen_random_uuid()")⟩,
    ⟨.text "code", .character ⟨.char, 3, by decide, by decide⟩, false, none⟩,
    ⟨.text "stock", .scalar .integer, false, some (.literal (.int 0))⟩,
    ⟨.text "level", .enumeration Sample.level, true, some (.literal (.text "basic"))⟩,
    ⟨.text "account", .scalar .uuid, true, none⟩]
  primaryKeys := ["id"]
  foreignKeys := Sample.orders.foreignKeys.map fun k => { k with onDelete := some .setNull }
  constraints := [⟨"stock_not_negative", "stock >= 0", by decide, by decide⟩]
  name_fits := by decide
  typeName_ok := by decide

end Sample

namespace Registry

theorem load_document_accounts_articles :
    RegistersAll {} {} [Sample.accounts, Sample.articles] ∧
      Expressible [Sample.accounts, Sample.articles] ∧
        ((Session.load {} "shop" (Written.document ["pgcrypto"]
          [Sample.accounts, Sample.articles])).run {}).1.2 = .ok () := by
  have hr : RegistersAll {} {} [Sample.accounts, Sample.articles] := by
    rw [registersAll_iff, ← schemaIssues_eq_nil_iff]
    decide
  have hx : Expressible [Sample.accounts, Sample.articles] := by
    constructor
    · have hnames : ∀ t ∈ [Sample.accounts, Sample.articles], ∀ c ∈ t.columns,
          ∃ n ∈ c.nameText?, FitsName n := by
        decide
      intro t ht c hc
      obtain ⟨n, hn, hfits⟩ := hnames t ht c hc
      exact ⟨n, Column.nameText?_eq_some_iff.mp hn, hfits⟩
    · decide
    · decide
    · decide
  exact ⟨hr, hx, congrArg Prod.snd (load_document_eq {} ["pgcrypto"] _ "shop" {} {} hr hx).1⟩

end Registry

end TableSchema
