import AnnotatedSql.Main
import AnnotatedSql.Proofs.Grammar.Soundness.Select
import AnnotatedSql.Proofs.Token.Sequence
import AnnotatedSql.Proofs.Grammar.Soundness.Statement
import AnnotatedSql.Proofs.Grammar.Backtracking.Agreement
import AnnotatedSql.Proofs.Grammar.Backtracking.Call
import AnnotatedSql.Proofs.Grammar.Backtracking.Expression
import AnnotatedSql.Proofs.Grammar.Backtracking.Statement
import AnnotatedSql.Proofs.Grammar.Completeness.Acceptance
import AnnotatedSql.Proofs.Grammar.Completeness.Shape
import AnnotatedSql.Proofs.Grammar.Completeness.Corner
import AnnotatedSql.Proofs.Grammar.Completeness.Follow
import AnnotatedSql.Proofs.Grammar.Completeness.Call
import AnnotatedSql.Proofs.Grammar.Completeness.Simple
import AnnotatedSql.Proofs.Grammar.Completeness.Expression
import AnnotatedSql.Proofs.Grammar.Completeness.Select
import AnnotatedSql.Proofs.Grammar.Completeness.Statement
import AnnotatedSql.Proofs.Annotate.Kept
import AnnotatedSql.Proofs.Annotate.Walk
import AnnotatedSql.Proofs.Annotate.Numbering
import AnnotatedSql.Proofs.Annotate.Node
import AnnotatedSql.Proofs.Annotate.Derivation
import AnnotatedSql.Proofs.Annotate.MarkerOrder
import AnnotatedSql.Proofs.Annotate.Logic
import AnnotatedSql.Proofs.Annotate.Outcome
import AnnotatedSql.Proofs.Annotate.Placed
import AnnotatedSql.Proofs.Grammar.Stretch
import AnnotatedSql.Proofs.Annotate.Placement
import AnnotatedSql.Proofs.Annotate.SpanOrder
import AnnotatedSql.Proofs.Annotate.Rejection
import AnnotatedSql.Proofs.Annotate.Refusal
import AnnotatedSql.Proofs.Annotate.InvalidOrdinal
import AnnotatedSql.Proofs.Grammar.Locality.Balance
import AnnotatedSql.Proofs.Grammar.Locality.Call
import AnnotatedSql.Proofs.Grammar.Locality.Expression
import AnnotatedSql.Proofs.Grammar.Locality.Select
import AnnotatedSql.Proofs.Grammar.Locality.Transport
import AnnotatedSql.Proofs.Annotate.Carried
import AnnotatedSql.Proofs.Annotate.Session
import AnnotatedSql.Proofs.Annotate.Named
import AnnotatedSql.Proofs.Grammar.Resumption
import AnnotatedSql.Proofs.Annotate.Excerpt
import AnnotatedSql.Proofs.Annotate.LetterCase
import AnnotatedSql.Proofs.Annotate.Quotation
import AnnotatedSql.Proofs.Grammar.KindsOnly
import AnnotatedSql.Proofs.Json.Reading
import AnnotatedSql.Proofs.Statement.Faithful
import AnnotatedSql.Proofs.Grammar.Subtree
import AnnotatedSql.Proofs.Grammar.Interval
import AnnotatedSql.Proofs.Grammar.Grouping
import AnnotatedSql.Proofs.Grammar.Binding
import AnnotatedSql.Proofs.Grammar.OperatorChain
import AnnotatedSql.Proofs.Grammar.Parenthesis
import AnnotatedSql.Proofs.Grammar.Locality.Fragment
import AnnotatedSql.Proofs.Annotate.Enclosed
import AnnotatedSql.Proofs.Token.Respacing
import AnnotatedSql.Proofs.Token.LexicalClass
import AnnotatedSql.Proofs.Grammar.Script.Abreast
import AnnotatedSql.Proofs.Grammar.Script.Course
import AnnotatedSql.Proofs.Grammar.Script.Ending
import AnnotatedSql.Proofs.Grammar.Script.Finality
import AnnotatedSql.Proofs.Annotate.IntegerOrdinal
import AnnotatedSql.Proofs.Annotate.Piece
import AnnotatedSql.Proofs.Annotate.Shape
import AnnotatedSql.Proofs.Grammar.OrderSlot
import AnnotatedSql.Proofs.Grammar.Division
import AnnotatedSql.Proofs.Annotate.CallClass
import AnnotatedSql.Proofs.Annotate.SpanJoin
import AnnotatedSql.Proofs.Token.Numeral
import AnnotatedSql.Proofs.Annotate.NumberLiteral
import AnnotatedSql.Proofs.Decimal.Rounding
import AnnotatedSql.Proofs.Decimal.Spelling
import AnnotatedSql.Proofs.Annotate.DecimalOrdinal
