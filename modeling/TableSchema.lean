import TableSchema.CommandLine.Run
import TableSchema.Datum.Percent
import TableSchema.Main
import TableSchema.Proofs.Validation.TableCheck
import TableSchema.Reading.Issue
import TableSchema.ValueType.Unchecked
import TableSchema.Proofs.Validation.Coherence
import TableSchema.Proofs.Validation.Growth
import TableSchema.Proofs.Registry.Acceptance
import TableSchema.Proofs.Registry.Operations
import TableSchema.Proofs.Registry.Soundness
import TableSchema.Proofs.Sql.Catalogue
import TableSchema.Proofs.Sql.Scripts
import TableSchema.Proofs.Registry.Enumerations
import TableSchema.Proofs.TypeScript.Declarations
import TableSchema.Proofs.TypeScript.Scope
import TableSchema.Proofs.Text.Unambiguous
import TableSchema.Proofs.Text.Naming
import TableSchema.Proofs.TypeScript.Fields
import TableSchema.Proofs.Sql.Outline
import TableSchema.Proofs.Sql.Clauses
import TableSchema.Proofs.Text.Layout
import TableSchema.Proofs.Sql.Statements
import TableSchema.Proofs.Sql.Determination
import TableSchema.Proofs.Registry.Additions
import TableSchema.Proofs.Registry.History
import TableSchema.Proofs.Registry.Loads
import TableSchema.Proofs.Reading.Entries
import TableSchema.Proofs.Reading.Outcomes
import TableSchema.Proofs.Reading.Objects
import TableSchema.Proofs.Document.Parts
import TableSchema.Proofs.Sql.Writability
import TableSchema.Proofs.CommandLine.Answers
import TableSchema.Proofs.CommandLine.Endings
import TableSchema.Proofs.Number.IntegerText
import TableSchema.Proofs.Text.Blank
import TableSchema.Proofs.ValueType.Lookup
import TableSchema.Proofs.Reading.Written
import TableSchema.Proofs.Document.Written
import TableSchema.Proofs.Document.Agreement
import TableSchema.Proofs.TypeScript.Identifier
import TableSchema.Proofs.TypeScript.Emission
import TableSchema.Proofs.CommandLine.Delivery
import TableSchema.Proofs.Sql.Constants
import TableSchema.Proofs.Sql.Guarded
import TableSchema.Proofs.Text.JsonReading
import TableSchema.Proofs.TypeScript.Members
import TableSchema.Proofs.EnumerationValues
import TableSchema.Proofs.Reading.KeyedColumns
import TableSchema.Proofs.Number.Nearest
import TableSchema.Proofs.Number.Notation
import TableSchema.Proofs.Registry.Generation
import TableSchema.Proofs.Sql.Defaults
import TableSchema.Proofs.Validation.Sections
import TableSchema.Proofs.TypeScript.NameForms
import TableSchema.Proofs.Text.Spread
import TableSchema.Proofs.ValueType.Spellings
import TableSchema.Proofs.Document.Enumerations
import TableSchema.Proofs.Sql.Identifiers
import TableSchema.Proofs.Sql.Repeatable
import TableSchema.Proofs.Validation.Namesakes
import TableSchema.Proofs.DefaultsCache
import TableSchema.Proofs.Registry.Records
import TableSchema.Proofs.Log.Blocks
