import TableSchema.Proofs.Sql.Scripts
import TableSchema.Proofs.TypeScript.Declarations

/-!
# The enumerations of a registry and of its declarations

A registry collects enumerations column by column while tables are registered; the declarations
collect them again from the tables, table by table. Both keep of each name the first declaration, so
that the scripts and the declarations are about the same enumerations in the same order.
-/

namespace TableSchema

namespace Sql.Statement

/-- The enumeration that a statement creates. -/
def createdEnum? : Statement → Option EnumType
  | .createEnum e => some e
  | .createExtension _ | .createTable _ | .dropTable _ | .dropType _ | .dropExtension _ => none

/-- The name of the type that a statement drops. -/
def droppedType? : Statement → Option String
  | .dropType n => some n
  | .createExtension _ | .createEnum _ | .createTable _ | .dropTable _ | .dropExtension _ => none

end Sql.Statement

namespace Sql

variable (tables : List Table) (extensions : List String)

theorem filterMap_createdEnum? (types : CustomTypes) :
    (createStatements tables extensions types).filterMap Statement.createdEnum? =
      types.map (·.2) := by
  rw [createStatements, List.filterMap_append, List.filterMap_append, extensionStatements,
    enumStatements, tableStatements]
  simp only [List.filterMap_map]
  simp [Function.comp_def, Statement.createdEnum?]

theorem filterMap_droppedType? (names : List String) :
    (dropStatements tables extensions names).filterMap Statement.droppedType? = names := by
  rw [dropStatements, List.filterMap_append, List.filterMap_append]
  simp only [List.filterMap_map]
  simp [Function.comp_def, Statement.droppedType?]

end Sql

namespace Registry

open Sql

variable {r : Registry}

/-- A table that repeats an enumeration declares it once, by its first column of that enumeration;
the later columns had no part in the first enumerations of all tables anyway. -/
theorem collectEnums_eq_firstEnums (ts : List Table) :
    TypeScript.collectEnums ts = firstEnums ts :=
  firstsBy_flatMap_firstsBy EnumType.name Table.columnEnums ts

theorem IsSound.customTypes_eq_collectEnums (h : r.IsSound) :
    r.customTypes = keyed (TypeScript.collectEnums r.tables) := by
  rw [h.customTypes_eq, collectEnums_eq_firstEnums]

theorem map_snd_keyed (es : List EnumType) : (keyed es).map (·.2) = es := by
  simp [keyed, Function.comp_def]

/-- After any operations the registered enumerations are those that the declarations collect, under
their names, with the same values and in the same order. The create script creates these, the drop
script drops their names, and the declarations declare these. -/
theorem after_enumerations_agree (s : Settings) (ops : List Operation)
    (before now : Log.Trace) :
    let r := ((Session.performAll { settings := s } ops).run before).1
    let creates := createStatements r.tables r.extensions r.customTypes
    let drops := dropStatements r.tables r.extensions (r.customTypes.map (·.1))
    let declared := TypeScript.outline r.tables
    let enums := TypeScript.collectEnums r.tables
    r.customTypes = enums.map (fun e => (e.name, e)) ∧
      (creates.filterMap Statement.createdEnum? = enums ∧
        drops.filterMap Statement.droppedType? = enums.map (·.name) ∧
        declared.filterMap TypeScript.Declaration.enum? = enums) ∧
      ((Session.generateSql r).run now).1 = ((texts r.settings creates).map
        (createLayout r.settings r.extensions.length r.customTypes.length)).mapError .sql ∧
      ((Session.generateDrop r).run now).1 = ((texts r.settings drops).map
        fun parts => r.settings.wrap (banner r.settings) ("\n".intercalate parts)).mapError
          .sql ∧
      ((Session.generateTypescript r).run now).1 =
        ((declared.mapM (TypeScript.Declaration.text r.settings)).map
          (TypeScript.layout r.settings enums.length)).mapError .typescript := by
  intro r creates drops declared enums
  have hr : r.IsSound := isSound_performAll s ops before
  have htypes : r.customTypes = keyed enums := hr.customTypes_eq_collectEnums
  refine ⟨htypes, ⟨?_, ?_, TypeScript.filterMap_enum?_outline⟩, ?_, ?_, ?_⟩
  · rw [filterMap_createdEnum?, htypes, map_snd_keyed]
  · rw [filterMap_droppedType?, htypes, map_fst_keyed]
  · rw [Session.generateSql_run_fst now hr.issues_eq_nil, createScript_eq]
  · rw [Session.generateDrop_run_fst now hr.issues_eq_nil]
    rfl
  · rw [Session.generateTypescript_run_fst now hr.issues_eq_nil, TypeScript.declarations_eq]

end Registry

end TableSchema
