import RowQuery.Main
import RowQuery.Proofs.Expr.Nodes
import RowQuery.Proofs.Expr.Normalizing
import RowQuery.Row.Reading
import RowQuery.Proofs.Expr.Denormalizing
import RowQuery.Proofs.Expr.NormalForm
import RowQuery.Proofs.Expr.Agreement
import RowQuery.Proofs.Floating.Exactness
import RowQuery.Proofs.Value.Types
import RowQuery.Proofs.Node.Typing
import RowQuery.Proofs.Value.Widening
import RowQuery.Proofs.Node.ReadBack
import RowQuery.Proofs.Outline.Regrouping
import RowQuery.Proofs.Outline.Distinction
import RowQuery.Proofs.Node.ImplicitConversion
import RowQuery.Proofs.Query.Obtainable
import RowQuery.Proofs.Query.Parameters
import RowQuery.Proofs.Registry.Storage
import RowQuery.Proofs.Expr.IntegerRegrouping
import RowQuery.Proofs.Expr.FailedAttempts
import RowQuery.Proofs.Query.Updates
import RowQuery.Proofs.Json.RoundTrip
import RowQuery.Proofs.Json.Reordering
import RowQuery.Proofs.Row.Index
import RowQuery.Proofs.Row.TypedReads
import RowQuery.Proofs.Expr.Resolution
import RowQuery.Proofs.Expr.Typing
import RowQuery.Proofs.Value.IntegerConversion
import RowQuery.Proofs.Value.Comparison
import RowQuery.Proofs.Expr.LogicalChains
import RowQuery.Proofs.Expr.RowReads
import RowQuery.Proofs.Expr.RowAnswers
import RowQuery.Proofs.Value.StringSearch
import RowQuery.Proofs.Literal.Reading
import RowQuery.Proofs.Literal.TypeNames
import RowQuery.Proofs.Moment.Literal
import RowQuery.Proofs.Query.Lists
import RowQuery.Proofs.Command.Constants
import RowQuery.Proofs.Command.DescribedQuery
import RowQuery.Proofs.Expr.ParameterAgreement
import RowQuery.Proofs.Literal.Single
