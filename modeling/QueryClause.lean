import QueryClause.Aliases
import QueryClause.Calendar.Date
import QueryClause.Calendar.DateTime
import QueryClause.Calendar.Notation
import QueryClause.Calendar.TimeSpan
import QueryClause.CommandLine.Arguments
import QueryClause.CommandLine.Run
import QueryClause.Compile.Basic
import QueryClause.Compile.Call
import QueryClause.Compile.Column
import QueryClause.Compile.Context
import QueryClause.Compile.Error
import QueryClause.Compile.Fragment
import QueryClause.Compile.Operator
import QueryClause.Config
import QueryClause.Decimal.Arithmetic
import QueryClause.Decimal.Basic
import QueryClause.Decimal.Float
import QueryClause.Decimal.Reader
import QueryClause.Decimal.Rounding
import QueryClause.Dict
import QueryClause.Eval.Arguments
import QueryClause.Eval.Compare
import QueryClause.Eval.Construct
import QueryClause.Eval.Convert
import QueryClause.Eval.Environment
import QueryClause.Eval.Error
import QueryClause.Eval.Evaluate
import QueryClause.Eval.Member
import QueryClause.Eval.Method
import QueryClause.Eval.Numeric
import QueryClause.Eval.Operate
import QueryClause.Eval.Supply
import QueryClause.Expr.Basic
import QueryClause.Expr.Json
import QueryClause.Expr.Operator
import QueryClause.Expr.Text
import QueryClause.Guid
import QueryClause.Host.Json
import QueryClause.Host.Type
import QueryClause.Host.Value
import QueryClause.Json.Basic
import QueryClause.Json.Fields
import QueryClause.Json.Number
import QueryClause.Json.Reader
import QueryClause.Main
import QueryClause.Number.Binary64
import QueryClause.Number.FloatReading
import QueryClause.Number.FloatText
import QueryClause.Number.Power
import QueryClause.Number.Shortest
import QueryClause.Number.Word64
import QueryClause.Schema
import QueryClause.Sql.Dialect
import QueryClause.Sql.Identifier
import QueryClause.Sql.Literal
import QueryClause.Sql.Pattern
import QueryClause.Text.Alphanumeric
import QueryClause.Text.Blank
import QueryClause.Text.CaseTable
import QueryClause.Text.Cased
import QueryClause.Text.CharSet
import QueryClause.Text.Hex
import QueryClause.Text.Integer
import QueryClause.Text.LetterCase
import QueryClause.Text.Search
import QueryClause.Toml.Basic
import QueryClause.Toml.Reader
import QueryClause.Toml.Scalar
import QueryClause.Proofs.Compile.Arithmetic
import QueryClause.Proofs.Compile.Construction
import QueryClause.Proofs.Compile.Folding
import QueryClause.Proofs.Compile.Injection
import QueryClause.Proofs.Compile.Membership
import QueryClause.Proofs.Compile.Node
import QueryClause.Proofs.Compile.Nullable
import QueryClause.Proofs.Compile.Operand
import QueryClause.Proofs.Compile.Predicate
import QueryClause.Proofs.Compile.Row
import QueryClause.Proofs.Compile.Run
import QueryClause.Proofs.Compile.Sealed
import QueryClause.Proofs.Compile.Shape
import QueryClause.Proofs.Compile.Skipped
import QueryClause.Proofs.Eval.Depth
import QueryClause.Proofs.Eval.Fresh
import QueryClause.Proofs.Eval.Step
import QueryClause.Proofs.Expr.Subterm
import QueryClause.Proofs.Results
import QueryClause.Proofs.Sql.Arithmetic
import QueryClause.Proofs.Sql.Condition
import QueryClause.Proofs.Sql.Layout
import QueryClause.Proofs.Sql.Lexical
import QueryClause.Proofs.Sql.Literal
import QueryClause.Proofs.Sql.Membership
import QueryClause.Proofs.Sql.Reference
import QueryClause.Proofs.Text.Integer
import QueryClause.Proofs.Sql.Like
import QueryClause.Proofs.Sql.Pattern
import QueryClause.Proofs.Compile.Like
import QueryClause.Proofs.Compile.NullTest
import QueryClause.Proofs.Sql.Precedence
import QueryClause.Proofs.Compile.Precedence
import QueryClause.Proofs.Compile.Likeness
import QueryClause.Proofs.Compile.Surroundings
import QueryClause.Proofs.Schema.Registry
import QueryClause.Proofs.Compile.Registration
import QueryClause.Proofs.Compile.Dialect
import QueryClause.Proofs.Eval.Limit
import QueryClause.Proofs.Compile.Limit
import QueryClause.Proofs.Schema.Builder
import QueryClause.Proofs.Sql.Identifier
import QueryClause.Proofs.Sql.Rendering
import QueryClause.Proofs.Json.Text
import QueryClause.Proofs.Host.Json
import QueryClause.Proofs.Expr.Json
import QueryClause.Proofs.Schema.Json
import QueryClause.Proofs.Compile.Spelling
import QueryClause.Proofs.Compile.Coercion
import QueryClause.Proofs.Compile.Method
import QueryClause.Proofs.Compile.Receiver
import QueryClause.Proofs.Sql.Part
import QueryClause.Proofs.Compile.Part
import QueryClause.Proofs.Calendar.Date
import QueryClause.Proofs.Calendar.DateTime
import QueryClause.Proofs.Calendar.TimeSpan
import QueryClause.Proofs.Eval.Temporal
import QueryClause.Proofs.Eval.Construct
import QueryClause.Proofs.Sql.Numeral
import QueryClause.Proofs.Calendar.Month
import QueryClause.Proofs.Eval.Month
import QueryClause.Proofs.Eval.Span
import QueryClause.Proofs.Calendar.Notation
import QueryClause.Proofs.Eval.Notation
import QueryClause.Proofs.Decimal.Order
import QueryClause.Proofs.Host.Value
import QueryClause.Proofs.Eval.Compare
import QueryClause.Proofs.Eval.Order
import QueryClause.Proofs.Text.Search
import QueryClause.Proofs.Eval.Search
import QueryClause.Proofs.Eval.Captures
import QueryClause.Proofs.Eval.Concat
import QueryClause.Proofs.Eval.Convert
