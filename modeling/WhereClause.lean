import WhereClause.Binary64
import WhereClause.Builtin
import WhereClause.Calendar.Date
import WhereClause.Calendar.Format
import WhereClause.Calendar.Instant
import WhereClause.Calendar.Timestamp
import WhereClause.Calendar.Zone
import WhereClause.Calendar.Zone.Known
import WhereClause.Converter
import WhereClause.Decimal.Integer
import WhereClause.Decimal.Layout
import WhereClause.Decimal.Numeral
import WhereClause.Decimal.Shortest
import WhereClause.Expr
import WhereClause.Expr.Json
import WhereClause.Filter.Grammar
import WhereClause.Filter.Literal
import WhereClause.Filter.Lowering
import WhereClause.Filter.Term
import WhereClause.Filter.Token
import WhereClause.Json
import WhereClause.Json.Reader
import WhereClause.NameSet
import WhereClause.Notice
import WhereClause.Operator
import WhereClause.Scope
import WhereClause.Scope.Check
import WhereClause.Session
import WhereClause.Signature
import WhereClause.Signature.Standard
import WhereClause.Sql.Quoting
import WhereClause.Sql.Rendering
import WhereClause.Sql.Settings
import WhereClause.Text.Blank
import WhereClause.Text.Concealed
import WhereClause.Text.Quoted
import WhereClause.Text.Utf8
import WhereClause.Value
import WhereClause.Proofs.Expr.Nodes
import WhereClause.Proofs.Sql.Rendered
import WhereClause.Proofs.Decimal.Text
import WhereClause.Proofs.Filter.Names
import WhereClause.Proofs.Sql.Literal
import WhereClause.Proofs.Sql.Like
import WhereClause.Proofs.Converter
import WhereClause.Proofs.Sql.Stripping
import WhereClause.Proofs.Sql.Containment
import WhereClause.Proofs.Sql.Skeleton
import WhereClause.Proofs.Sql.Violations
import WhereClause.Proofs.Calendar.Writable
import WhereClause.Proofs.Filter.Meaning
import WhereClause.Proofs.Scope.Declared
import WhereClause.Proofs.Scope.Registry
import WhereClause.Proofs.Scope.Built
import WhereClause.Proofs.Scope.Check
import WhereClause.Proofs.Scope.Agreement
import WhereClause.Proofs.Text.ByteOrder
import WhereClause.Proofs.Scope.Verdict
import WhereClause.Proofs.Scope.Reordering
import WhereClause.Proofs.Filter.Literals
import WhereClause.Proofs.Filter.Reading
import WhereClause.Proofs.Filter.RoundTrip
import WhereClause.Proofs.Session.Lineage
import WhereClause.Proofs.Session.Gates
import WhereClause.Proofs.Decimal.Exact
import WhereClause.Proofs.Scope.Widening
import WhereClause.Proofs.Expr.Spelling
import WhereClause.Proofs.Scope.Contents
import WhereClause.Proofs.Scope.Misfits
import WhereClause.Proofs.Filter.Unsupported
import WhereClause.Proofs.Calendar.Stamp
import WhereClause.Proofs.Calendar.Shifted
import WhereClause.Proofs.Sql.Columns
import WhereClause.Proofs.Calendar.Chronology
import WhereClause.Proofs.Calendar.DateTime
import WhereClause.Proofs.Scope.Table
import WhereClause.Proofs.Sql.Interrupted
