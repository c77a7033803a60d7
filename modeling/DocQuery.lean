import DocQuery.Collection.Basic
import DocQuery.Collection.Registry
import DocQuery.Collection.Restriction
import DocQuery.Config.CollectionsFile
import DocQuery.Config.Options
import DocQuery.Config.Settings
import DocQuery.Config.Startup
import DocQuery.Document.Instant
import DocQuery.Document.Order
import DocQuery.Document.Path
import DocQuery.Document.Projection
import DocQuery.Document.Sort
import DocQuery.Filter.Mapping
import DocQuery.Filter.Merge
import DocQuery.Filter.Operand
import DocQuery.Filter.Operator
import DocQuery.Http.Address
import DocQuery.Http.MediaType
import DocQuery.Http.Message
import DocQuery.Http.Origin
import DocQuery.Http.Router
import DocQuery.Json.Basic
import DocQuery.Json.Decode
import DocQuery.Json.Draft
import DocQuery.Json.Text
import DocQuery.Main
import DocQuery.Number.Basic
import DocQuery.Number.Binary64
import DocQuery.Number.Literal
import DocQuery.Number.Numeral
import DocQuery.Number.Shortest
import DocQuery.Pattern.Basic
import DocQuery.Pattern.Engine
import DocQuery.Pattern.Property
import DocQuery.Pattern.PropertyValue
import DocQuery.Pattern.Reader
import DocQuery.Pattern.Size
import DocQuery.Predicate.Basic
import DocQuery.Predicate.Compile
import DocQuery.Proofs.Document.Detour
import DocQuery.Proofs.Document.Exclusion
import DocQuery.Proofs.Document.Inclusion
import DocQuery.Proofs.Document.Kept
import DocQuery.Proofs.Document.Order
import DocQuery.Proofs.Document.Path
import DocQuery.Proofs.Document.Place
import DocQuery.Proofs.Document.Projection
import DocQuery.Proofs.Document.Readings
import DocQuery.Proofs.Document.Removal
import DocQuery.Proofs.Document.Sorting
import DocQuery.Proofs.Document.Without
import DocQuery.Proofs.Filter.Acceptance
import DocQuery.Proofs.Filter.Compilation
import DocQuery.Proofs.Filter.Conjunction
import DocQuery.Proofs.Filter.Folding
import DocQuery.Proofs.Filter.Fusion
import DocQuery.Proofs.Filter.Guard
import DocQuery.Proofs.Filter.Mapping
import DocQuery.Proofs.Filter.Merge
import DocQuery.Proofs.Filter.MergeMeaning
import DocQuery.Proofs.Filter.Override
import DocQuery.Proofs.Filter.Parts
import DocQuery.Proofs.Filter.Range
import DocQuery.Proofs.Filter.Spellings
import DocQuery.Proofs.Filter.TestFold
import DocQuery.Proofs.Filter.Tests
import DocQuery.Proofs.Json.Decode
import DocQuery.Proofs.Json.Equality
import DocQuery.Proofs.Json.Keys
import DocQuery.Proofs.Json.Text
import DocQuery.Proofs.Number.Interval
import DocQuery.Proofs.Number.Numeral
import DocQuery.Proofs.Number.Order
import DocQuery.Proofs.Number.Whole
import DocQuery.Proofs.Number.Written
import DocQuery.Proofs.Outcome
import DocQuery.Proofs.Predicate.Congruence
import DocQuery.Proofs.Predicate.Elements
import DocQuery.Proofs.Predicate.Meaning
import DocQuery.Proofs.Predicate.TextFree
import DocQuery.Proofs.Query.CanonicalSelection
import DocQuery.Proofs.Query.DroppedDefaults
import DocQuery.Proofs.Query.ExpansionEntries
import DocQuery.Proofs.Query.HiddenExpansions
import DocQuery.Proofs.Query.HiddenPaths
import DocQuery.Proofs.Query.Interleaving
import DocQuery.Proofs.Query.NonInterference
import DocQuery.Proofs.Query.PageWindow
import DocQuery.Proofs.Query.Pages
import DocQuery.Proofs.Query.RelevanceOrder
import DocQuery.Proofs.Query.RereadSelection
import DocQuery.Proofs.Query.Restriction
import DocQuery.Proofs.Query.Selection
import DocQuery.Proofs.Query.SortForms
import DocQuery.Proofs.Query.StandingDefaults
import DocQuery.Proofs.Query.WrittenExpansions
import DocQuery.Proofs.Search.Composition
import DocQuery.Proofs.Search.Hits
import DocQuery.Proofs.Search.Phrases
import DocQuery.Proofs.Search.Visibility
import DocQuery.Proofs.Sql.Acceptance
import DocQuery.Proofs.Sql.Blanks
import DocQuery.Proofs.Sql.Conditions
import DocQuery.Proofs.Sql.Injection
import DocQuery.Proofs.Sql.Operands
import DocQuery.Proofs.Sql.PathText
import DocQuery.Proofs.Sql.PipelineShape
import DocQuery.Proofs.Sql.Shape
import DocQuery.Proofs.Sql.TextSearch
import DocQuery.Proofs.Store.Answer
import DocQuery.Proofs.Store.Batch
import DocQuery.Proofs.Store.Blindness
import DocQuery.Proofs.Store.Commutation
import DocQuery.Proofs.Store.Exposure
import DocQuery.Proofs.Store.JoinKey
import DocQuery.Proofs.Store.Loaded
import DocQuery.Proofs.Store.Pipeline
import DocQuery.Proofs.Store.Population
import DocQuery.Proofs.Store.Reference
import DocQuery.Proofs.Store.ReferenceKey
import DocQuery.Proofs.Store.ReferenceQuery
import DocQuery.Proofs.Store.Relevance
import DocQuery.Proofs.Text.Split
import DocQuery.Query.Diagnostic
import DocQuery.Query.Envelope
import DocQuery.Query.Error
import DocQuery.Query.Expansion
import DocQuery.Query.FullText
import DocQuery.Query.Normal
import DocQuery.Query.Page
import DocQuery.Query.Request
import DocQuery.Query.Selection
import DocQuery.Query.Service
import DocQuery.Query.Sort
import DocQuery.Search.Accent
import DocQuery.Search.Matcher
import DocQuery.Search.TextQuery
import DocQuery.Sql.Expression
import DocQuery.Sql.Filter
import DocQuery.Sql.Path
import DocQuery.Sql.Pipeline
import DocQuery.Sql.Statement
import DocQuery.Sql.Store
import DocQuery.Sql.Text
import DocQuery.Sql.TextSearch
import DocQuery.Store.Basic
import DocQuery.Store.Error
import DocQuery.Store.Identity
import DocQuery.Store.Memory
import DocQuery.Store.Populate
import DocQuery.Store.Query
import DocQuery.Store.Stage
import DocQuery.Store.StageText
import DocQuery.Text.Age
import DocQuery.Text.Alphanumeric
import DocQuery.Text.BinaryProperty
import DocQuery.Text.Blank
import DocQuery.Text.CaseFold
import DocQuery.Text.Category
import DocQuery.Text.LowerCase
import DocQuery.Text.Quoted
import DocQuery.Text.Ranges
import DocQuery.Text.Script
import DocQuery.Text.Utf8
import DocQuery.Text.Word
import DocQuery.Toml.Reader
import DocQuery.Toml.Scalar
import DocQuery.Toml.Table
