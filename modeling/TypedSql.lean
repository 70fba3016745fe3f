import TypedSql.Catalog
import TypedSql.Column.Comparison
import TypedSql.Column.Definition
import TypedSql.Column.Expr
import TypedSql.Column.Usage
import TypedSql.Compiler
import TypedSql.Expr.Json
import TypedSql.Json.Reader
import TypedSql.Json.Writer
import TypedSql.Observation.Meter
import TypedSql.Table.Comparison
import TypedSql.TypeNames
import TypedSql.Proofs.Lowering
import TypedSql.Proofs.Outcome
import TypedSql.Proofs.Quoting
import TypedSql.Proofs.Lexing
import TypedSql.Proofs.Rendering
import TypedSql.Proofs.Tokens
import TypedSql.Proofs.Placeholders
import TypedSql.Proofs.Folding
import TypedSql.Proofs.Atomicity
import TypedSql.Proofs.ColumnSteps
import TypedSql.Proofs.TableRuns
import TypedSql.Proofs.Reachable
import TypedSql.Proofs.ColumnInvariants
import TypedSql.Proofs.Configuration
import TypedSql.Proofs.Accounting
import TypedSql.Proofs.JsonRoundTrip
import TypedSql.Proofs.IntegralStorage
import TypedSql.Proofs.Ranges
import TypedSql.Proofs.RangeRendering
import TypedSql.Proofs.DefinitionText
import TypedSql.Proofs.TextLength
import TypedSql.Proofs.ColumnFailures
import TypedSql.Proofs.Layers
import TypedSql.Proofs.TextDefaults
import TypedSql.Proofs.TransformChains
import TypedSql.Proofs.DefaultRoundTrip
import TypedSql.Proofs.SharedEntries
import TypedSql.Proofs.Copying
import TypedSql.Proofs.DefinitionClauses
import TypedSql.Proofs.WrittenAlike
import TypedSql.Proofs.RegistryRuns
import TypedSql.Proofs.Templates
import TypedSql.Proofs.DecodedTrees
import TypedSql.Proofs.Adoption
import TypedSql.Proofs.LetterCase
import TypedSql.Proofs.Slices
import TypedSql.Proofs.TransformLaws
import TypedSql.Proofs.Contexts
import TypedSql.Proofs.ScopedSinks
import TypedSql.Proofs.Sealing
import TypedSql.Proofs.DecimalSizes
