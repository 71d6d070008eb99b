import SchemaMigrate.Catalog.Basic
import SchemaMigrate.Catalog.Introspect
import SchemaMigrate.Catalog.Listing
import SchemaMigrate.Catalog.Visit
import SchemaMigrate.ColumnType.Basic
import SchemaMigrate.ColumnType.Canonical
import SchemaMigrate.ColumnType.Render
import SchemaMigrate.Config.Active
import SchemaMigrate.Config.Basic
import SchemaMigrate.Config.Load
import SchemaMigrate.Config.Numeral
import SchemaMigrate.Config.Setting
import SchemaMigrate.Digest.Sha256
import SchemaMigrate.File.Path
import SchemaMigrate.File.Tree
import SchemaMigrate.Model.Block
import SchemaMigrate.Model.Column
import SchemaMigrate.Model.Compile
import SchemaMigrate.Model.Failure
import SchemaMigrate.Model.Line
import SchemaMigrate.Model.Load
import SchemaMigrate.Model.Member
import SchemaMigrate.Name
import SchemaMigrate.NameMap
import SchemaMigrate.Notice
import SchemaMigrate.Number.Double
import SchemaMigrate.Plan.Basic
import SchemaMigrate.Plan.Extras
import SchemaMigrate.Plan.Size
import SchemaMigrate.Plan.Step
import SchemaMigrate.Postgres.Session
import SchemaMigrate.Postgres.Url
import SchemaMigrate.Proofs.Catalog.Canonical
import SchemaMigrate.Proofs.Catalog.Description
import SchemaMigrate.Proofs.Catalog.Effects
import SchemaMigrate.Proofs.Catalog.Entries
import SchemaMigrate.Proofs.Catalog.Reading
import SchemaMigrate.Proofs.Catalog.Rereading
import SchemaMigrate.Proofs.Catalog.RoundTrip
import SchemaMigrate.Proofs.Catalog.Values
import SchemaMigrate.Proofs.ColumnType.Writing
import SchemaMigrate.Proofs.Grammar.Blocks
import SchemaMigrate.Proofs.Grammar.Compilation
import SchemaMigrate.Proofs.Grammar.Declaration
import SchemaMigrate.Proofs.Grammar.Definitions
import SchemaMigrate.Proofs.Grammar.Lines
import SchemaMigrate.Proofs.Grammar.Members
import SchemaMigrate.Proofs.Grammar.Reading
import SchemaMigrate.Proofs.Grammar.Types
import SchemaMigrate.Proofs.Model.Additions
import SchemaMigrate.Proofs.Model.Batch
import SchemaMigrate.Proofs.Model.Blocks
import SchemaMigrate.Proofs.Model.Declarations
import SchemaMigrate.Proofs.Model.Extension
import SchemaMigrate.Proofs.Model.Growth
import SchemaMigrate.Proofs.Model.Incremental
import SchemaMigrate.Proofs.Model.KeyTypes
import SchemaMigrate.Proofs.Model.Keyword
import SchemaMigrate.Proofs.Model.Links
import SchemaMigrate.Proofs.Model.Locations
import SchemaMigrate.Proofs.Model.Names
import SchemaMigrate.Proofs.Model.Origins
import SchemaMigrate.Proofs.Model.Rejections
import SchemaMigrate.Proofs.Model.Remarks
import SchemaMigrate.Proofs.Model.Reordering
import SchemaMigrate.Proofs.Model.Sizes
import SchemaMigrate.Proofs.Model.Sources
import SchemaMigrate.Proofs.Model.Types
import SchemaMigrate.Proofs.Model.WellBuilt
import SchemaMigrate.Proofs.NameMap
import SchemaMigrate.Proofs.Plan.Containment
import SchemaMigrate.Proofs.Plan.Convergence
import SchemaMigrate.Proofs.Plan.Decision
import SchemaMigrate.Proofs.Plan.Due
import SchemaMigrate.Proofs.Plan.Effect
import SchemaMigrate.Proofs.Plan.Growth
import SchemaMigrate.Proofs.Plan.Joins
import SchemaMigrate.Proofs.Plan.Likeness
import SchemaMigrate.Proofs.Plan.Naming
import SchemaMigrate.Proofs.Plan.Opposite
import SchemaMigrate.Proofs.Plan.Replanning
import SchemaMigrate.Proofs.Plan.Respelling
import SchemaMigrate.Proofs.Plan.Scope
import SchemaMigrate.Proofs.Plan.Settled
import SchemaMigrate.Proofs.Plan.Spelling
import SchemaMigrate.Proofs.Plan.Widening
import SchemaMigrate.Proofs.Run.Accounting
import SchemaMigrate.Proofs.Run.Colons
import SchemaMigrate.Proofs.Run.Deeds
import SchemaMigrate.Proofs.Run.Gate
import SchemaMigrate.Proofs.Run.Mending
import SchemaMigrate.Proofs.Run.Placement
import SchemaMigrate.Proofs.Run.Preview
import SchemaMigrate.Proofs.Run.Rehearsal
import SchemaMigrate.Proofs.Run.Resumption
import SchemaMigrate.Proofs.Run.Safety
import SchemaMigrate.Proofs.Run.Skipping
import SchemaMigrate.Proofs.Run.Trace
import SchemaMigrate.Proofs.Schema
import SchemaMigrate.Proofs.Sql.Colons
import SchemaMigrate.Proofs.Sql.Column
import SchemaMigrate.Proofs.Sql.Lexeme
import SchemaMigrate.Proofs.Sql.Mending
import SchemaMigrate.Proofs.Sql.Narrowing
import SchemaMigrate.Proofs.Sql.Plain
import SchemaMigrate.Proofs.Sql.Query
import SchemaMigrate.Proofs.Sql.Relation
import SchemaMigrate.Proofs.Sql.Rounding
import SchemaMigrate.Proofs.Sql.Statement
import SchemaMigrate.Proofs.Sql.Storing
import SchemaMigrate.Proofs.Sql.TableText
import SchemaMigrate.Proofs.Sql.Token
import SchemaMigrate.Proofs.Sql.Unqualified
import SchemaMigrate.Proofs.Sql.Updating
import SchemaMigrate.Proofs.Sql.Value
import SchemaMigrate.Proofs.Text.Classes
import SchemaMigrate.Proofs.Text.Digits
import SchemaMigrate.Proofs.Text.Folding
import SchemaMigrate.Proofs.Text.Numerals
import SchemaMigrate.Report
import SchemaMigrate.Run.Apply
import SchemaMigrate.Run.Client
import SchemaMigrate.Run.Migration
import SchemaMigrate.Schema.Basic
import SchemaMigrate.Sql.Identifier
import SchemaMigrate.Sql.Narrowing
import SchemaMigrate.Sql.Statement
import SchemaMigrate.Text.Case
import SchemaMigrate.Text.Classes
import SchemaMigrate.Text.Encoding
import SchemaMigrate.Text.Lines
import SchemaMigrate.Text.Numeral
import SchemaMigrate.Text.Search
import SchemaMigrate.Text.Table.Fold
import SchemaMigrate.Text.Table.Lower
import SchemaMigrate.Text.Table.Printable
import SchemaMigrate.Text.Table.Word
import SchemaMigrate.Toml.Document
import SchemaMigrate.Toml.Scalar
import SchemaMigrate.Toml.Value
