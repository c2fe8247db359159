import EntityQuery.Binary64.Basic
import EntityQuery.Binary64.Shortest
import EntityQuery.Config.Basic
import EntityQuery.Config.Document
import EntityQuery.Config.Environment
import EntityQuery.Config.Wire
import EntityQuery.Decimal.Basic
import EntityQuery.Decimal.Binary
import EntityQuery.Decimal.Literal
import EntityQuery.Declaration
import EntityQuery.Environment
import EntityQuery.Error
import EntityQuery.Error.Wire
import EntityQuery.Expr.Basic
import EntityQuery.Expr.Code
import EntityQuery.Expr.Substitution
import EntityQuery.Json.Access
import EntityQuery.Json.Basic
import EntityQuery.Json.Fields
import EntityQuery.Json.Number
import EntityQuery.Json.Reader
import EntityQuery.Json.Writer
import EntityQuery.Logging
import EntityQuery.Order.Key
import EntityQuery.Order.RowOrder
import EntityQuery.Predicate.Builder
import EntityQuery.Predicate.Cache
import EntityQuery.Predicate.Question
import EntityQuery.Predicate.Specification
import EntityQuery.Predicate.Tree
import EntityQuery.Proofs.Cache.Call
import EntityQuery.Proofs.Cache.Coherence
import EntityQuery.Proofs.Cache.Memo
import EntityQuery.Proofs.Cache.Race
import EntityQuery.Proofs.Environment
import EntityQuery.Proofs.Expr.Alike
import EntityQuery.Proofs.Expr.Compilation
import EntityQuery.Proofs.Expr.Denotation
import EntityQuery.Proofs.Expr.Families
import EntityQuery.Proofs.Expr.Operands
import EntityQuery.Proofs.Expr.Places
import EntityQuery.Proofs.Expr.Refusal
import EntityQuery.Proofs.Expr.Renaming
import EntityQuery.Proofs.Expr.Reversal
import EntityQuery.Proofs.Expr.Safety
import EntityQuery.Proofs.Expr.Simultaneous
import EntityQuery.Proofs.Expr.Substitution
import EntityQuery.Proofs.Json.Spelling
import EntityQuery.Proofs.Json.Structures
import EntityQuery.Proofs.Order.Preorder
import EntityQuery.Proofs.Order.Sorting
import EntityQuery.Proofs.Order.StableSort
import EntityQuery.Proofs.Order.Successive
import EntityQuery.Proofs.People
import EntityQuery.Proofs.Predicate.Capture
import EntityQuery.Proofs.Predicate.Combination
import EntityQuery.Proofs.Predicate.Evaluation
import EntityQuery.Proofs.Predicate.Lifting
import EntityQuery.Proofs.Record.Derivation
import EntityQuery.Proofs.Request.Conjunction
import EntityQuery.Proofs.Request.Execution
import EntityQuery.Proofs.Request.Faults
import EntityQuery.Proofs.Request.FilterFault
import EntityQuery.Proofs.Request.IgnoredCase
import EntityQuery.Proofs.Request.Literals
import EntityQuery.Proofs.Request.Meaning
import EntityQuery.Proofs.Request.Pages
import EntityQuery.Proofs.Request.Transmission
import EntityQuery.Proofs.RowSource.Ordering
import EntityQuery.Proofs.RowSource.Running
import EntityQuery.Proofs.Sql.Agreement
import EntityQuery.Proofs.Sql.Columns
import EntityQuery.Proofs.Sql.Grammar
import EntityQuery.Proofs.Sql.Leniency
import EntityQuery.Proofs.Sql.Lexeme
import EntityQuery.Proofs.Sql.Lifting
import EntityQuery.Proofs.Sql.Literals
import EntityQuery.Proofs.Sql.Meaning
import EntityQuery.Proofs.Sql.NullPlacement
import EntityQuery.Proofs.Sql.Numbering
import EntityQuery.Proofs.Sql.Ordering
import EntityQuery.Proofs.Sql.Paging
import EntityQuery.Proofs.Sql.Pattern
import EntityQuery.Proofs.Sql.Piece
import EntityQuery.Proofs.Sql.Qualification
import EntityQuery.Proofs.Sql.Rendering
import EntityQuery.Proofs.Sql.Search
import EntityQuery.Proofs.Sql.SortItem
import EntityQuery.Proofs.Sql.Support
import EntityQuery.Proofs.Sql.Written
import EntityQuery.Proofs.Text.Digits
import EntityQuery.Proofs.Text.EditDistance
import EntityQuery.Proofs.Text.Lowercase
import EntityQuery.Proofs.Timestamp.Calendar
import EntityQuery.Proofs.Timestamp.Reading
import EntityQuery.Proofs.Uuid
import EntityQuery.Proofs.Value.Comparison
import EntityQuery.Proofs.Value.Exactness
import EntityQuery.Proofs.Value.Sets
import EntityQuery.Proofs.Value.TotalOrder
import EntityQuery.Proofs.Value.Transmission
import EntityQuery.Record
import EntityQuery.Record.Criterion
import EntityQuery.Record.Wire
import EntityQuery.Request.Filter
import EntityQuery.Request.Plan
import EntityQuery.Request.Selection
import EntityQuery.Request.Sort
import EntityQuery.Request.Wire
import EntityQuery.RowSource
import EntityQuery.Schema
import EntityQuery.Sql.Order
import EntityQuery.Sql.Page
import EntityQuery.Sql.Render
import EntityQuery.Sql.Syntax
import EntityQuery.Text.Blank
import EntityQuery.Text.CaseTable
import EntityQuery.Text.Cluster
import EntityQuery.Text.ClusterTable
import EntityQuery.Text.Digits
import EntityQuery.Text.EditDistance
import EntityQuery.Text.Hexadecimal
import EntityQuery.Text.Infix
import EntityQuery.Text.Lowercase
import EntityQuery.Text.Naming
import EntityQuery.Text.PrintableTable
import EntityQuery.Text.Quoted
import EntityQuery.Text.Ranges
import EntityQuery.Text.Record
import EntityQuery.Text.Uppercase
import EntityQuery.Text.Words
import EntityQuery.Timestamp.Basic
import EntityQuery.Timestamp.Reader
import EntityQuery.Toml.Basic
import EntityQuery.Toml.Reader
import EntityQuery.Toml.Scalar
import EntityQuery.Uuid
import EntityQuery.Value.Basic
import EntityQuery.Value.Family
import EntityQuery.Value.Json
import EntityQuery.Value.Literal
import EntityQuery.Value.Storage
import EntityQuery.Value.Tagged
import EntityQuery.Workspace.Basic
import EntityQuery.Workspace.Combining
import EntityQuery.Workspace.Evaluating
import EntityQuery.Workspace.Term
