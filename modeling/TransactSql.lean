import TransactSql.Calendar
import TransactSql.Client.Action
import TransactSql.Client.Catalog
import TransactSql.Client.Error
import TransactSql.Client.Session
import TransactSql.Compile.Aliases
import TransactSql.Compile.Compiled
import TransactSql.Compile.Error
import TransactSql.Compile.Lower
import TransactSql.Compile.Registry
import TransactSql.Compile.Rules
import TransactSql.Compile.Scope
import TransactSql.Compile.Statement
import TransactSql.Config.Connection
import TransactSql.Config.Environment
import TransactSql.Config.Error
import TransactSql.Config.FileTree
import TransactSql.Config.Location
import TransactSql.Config.Settings
import TransactSql.Decimal.Binary64
import TransactSql.Decimal.Layout
import TransactSql.Decimal.Power
import TransactSql.Decimal.Rounding
import TransactSql.Decimal.Shortest
import TransactSql.Document.Relation
import TransactSql.Document.Scalar
import TransactSql.Document.Sql
import TransactSql.Document.Value
import TransactSql.Json.Basic
import TransactSql.Json.Number
import TransactSql.Json.Parser
import TransactSql.Json.Printer
import TransactSql.Json.Record
import TransactSql.NameTable
import TransactSql.Pattern.Basic
import TransactSql.Pattern.Parser
import TransactSql.Relation.Basic
import TransactSql.Relation.Build
import TransactSql.Relation.Traverse
import TransactSql.Scalar.Basic
import TransactSql.Scalar.Build
import TransactSql.Scalar.LogicalType
import TransactSql.Scalar.Operation
import TransactSql.Scalar.Stored
import TransactSql.Scalar.TableName
import TransactSql.Scalar.Value
import TransactSql.Sql.Dialect
import TransactSql.Sql.Expr
import TransactSql.Sql.NativeType
import TransactSql.Sql.Select
import TransactSql.Sql.Token
import TransactSql.Text.Alphanumeric
import TransactSql.Text.Escaped
import TransactSql.Text.FoldCase
import TransactSql.Text.LowerCase
import TransactSql.Text.Printable
import TransactSql.Text.Quoted
import TransactSql.Text.Ranges
import TransactSql.Text.Split
import TransactSql.Text.UpperCase
import TransactSql.Text.WhiteSpace
import TransactSql.Text.Word
import TransactSql.Toml.Basic
import TransactSql.Toml.Number
import TransactSql.Toml.Parser
import TransactSql.Toml.Quoted
import TransactSql.Toml.Record
import TransactSql.Worker.Call
import TransactSql.Worker.Channel
import TransactSql.Worker.Error
import TransactSql.Worker.Reply
import TransactSql.Proofs.Lowering
import TransactSql.Proofs.Threading
import TransactSql.Proofs.Lowered
import TransactSql.Proofs.Clauses
import TransactSql.Proofs.Roles
import TransactSql.Proofs.ReadBack
import TransactSql.Proofs.QuietText
import TransactSql.Proofs.Scanner
import TransactSql.Proofs.Normalization
import TransactSql.Proofs.Quoting
import TransactSql.Proofs.Meaning
import TransactSql.Proofs.Subterms
import TransactSql.Proofs.References
import TransactSql.Proofs.Binding
import TransactSql.Proofs.Resolution
import TransactSql.Proofs.Parameters
import TransactSql.Proofs.Preparation
import TransactSql.Proofs.Routing
import TransactSql.Proofs.Rows
import TransactSql.Proofs.Building
import TransactSql.Proofs.Scopes
import TransactSql.Proofs.Acceptance
import TransactSql.Proofs.SingleStatement
import TransactSql.Proofs.Truth
import TransactSql.Proofs.Composition
import TransactSql.Proofs.Conjunctions
import TransactSql.Proofs.Evaluation
import TransactSql.Proofs.Pagination
import TransactSql.Proofs.Bits
import TransactSql.Proofs.Comments
import TransactSql.Proofs.Extension
import TransactSql.Proofs.Annotations
import TransactSql.Proofs.Expansion
import TransactSql.Proofs.Overriding
import TransactSql.Proofs.Positions
import TransactSql.Proofs.Representation
import TransactSql.Proofs.Mapping
import TransactSql.Proofs.Refusals
import TransactSql.Proofs.Tables
import TransactSql.Proofs.Columns
import TransactSql.Proofs.ConnectionStrings
