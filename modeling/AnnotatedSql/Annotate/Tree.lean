/-
This file annotates grammar trees.
What is not taken apart is kept as text, but its parts are visited all the same, so that every
marker gets its number in the order of the source.
-/

import AnnotatedSql.Annotate.Basic
import AnnotatedSql.Ordinal

namespace AnnotatedSql

/-- What a simple expression is annotated with: a value of its own or a segment. -/
inductive Leaf
  | value (value : Value)
  | segment (segment : Segment)

namespace Annotate

def verbatimSegment (span : Span) : Annotator Segment := return .expression (← verbatim span)

/-- Scalars and markers become expressions; any other value is kept as text. -/
def leafSegment (span : Span) : Leaf → Annotator Segment
  | .segment segment => return segment
  | .value (.marker index) => return .expression (.marker span index)
  | .value value =>
      if value.isScalar then return .expression (.literal span value) else verbatimSegment span

/-- A predicate that is not taken apart. -/
def keptPredicate (span : Span) : Annotator Segment := do
  report (.predicateKept span)
  verbatimSegment span

/-- The span of a number names a position. -/
def position (span : Span) : Annotator Int := do
  let text ← textAt span
  match Ordinal.ofText? text with
  | some position => return position
  | none => throw (.invalidOrdinal text span)

/-- DESC decides; otherwise the order is ascending. -/
def directionOf (descending : Option Span) : Direction :=
  if descending.isSome then .descending else .ascending

/-- A comparison is a predicate when a column stands on its left. -/
def comparison (span operator : Span) (left right : Segment) : Annotator Segment := do
  match left.column? with
  | none =>
      report (.comparisonReduced span)
      return left
  | some column =>
      match right.column? with
      | some other => return .predicate ⟨span, column, .column other⟩
      | none =>
          let sign ← textAt operator
          let source ← read
          return .predicate ⟨span, column, .compared sign (right.toExpression source)⟩

/-- A test is a predicate when it is not negated and a column is tested. -/
def test (span : Span) (operand : Segment) (negation : Option Span)
    (comparand : Text → Comparand) : Annotator Segment := do
  match negation, operand.column? with
  | none, some column => return .predicate ⟨span, column, comparand (← read)⟩
  | _, _ => keptPredicate span

/-- The call of a known aggregate is told apart; any other call is kept as text. -/
def aggregateUse (node : Grammar.AggregationCall) : Annotator Call := do
  let name ← textAt node.name
  match Aggregate.ofName? name with
  | none =>
      report (.aggregateUnknown name node.span)
      verbatimCall node.span
  | some aggregate =>
      let texts ← (node.arguments.map Grammar.AggregationArgument.span).mapM textAt
      let distinct := node.distinct.map fun _ => texts.flatten
      report (.aggregateFound aggregate distinct.isSome)
      return .aggregate ⟨node.span, aggregate, node.leftParen.start, distinct⟩

mutual

def expr : Grammar.Expr → Annotator Segment
  | .primary inner => booleanPrimary inner
  | .logical span left operator right => do
      let left ← expr left
      let right ← expr right
      match Connective.ofText? (← textAt operator) with
      | some connective => return left.join connective right span
      | none => throw (.structuralViolation .expr span)
  | .xor span left right => do
      let left ← expr left
      let _ ← expr right
      report (.xorReduced span)
      return left
  | .not _ _ inner => expr inner
  | .paren _ inner => expr inner

def booleanPrimary : Grammar.BooleanPrimary → Annotator Segment
  | .predicate inner => predicate inner
  | .isTest span operand _ _ => do
      let _ ← booleanPrimary operand
      report (.truthTestKept span)
      verbatimSegment span
  | .comparison span left operator right => do
      let left ← booleanPrimary left
      let right ← predicate right
      comparison span operator left right
  | .quantified span left _ _ query => do
      let _ ← booleanPrimary left
      let statement ← subquery query
      return .expression (.subquery span statement)

def predicate : Grammar.Predicate → Annotator Segment
  | .bitExpr operand => bitExpr operand
  | .inSubquery span operand negation query => do
      let operand ← bitExpr operand
      let statement ← subquery query
      test span operand negation fun _ =>
        .among query.leftParen query.rightParen [.subquery query.span statement]
  | .inList span operand negation leftParen items rightParen => do
      let operand ← bitExpr operand
      let candidates ← exprs items
      test span operand negation fun source =>
        .among leftParen rightParen (candidates.map fun segment => segment.toExpression source)
  | .between span operand negation lower upper => do
      let operand ← bitExpr operand
      let lower ← bitExpr lower
      let upper ← predicate upper
      test span operand negation fun source =>
        .between (lower.toExpression source) (upper.toExpression source)
  | .like span operand _ pattern escape => do
      let _ ← bitExpr operand
      let _ ← simpleExpr pattern
      simpleExpr? escape
      keptPredicate span

def bitExpr : Grammar.BitExpr → Annotator Segment
  | .simple operand => do
      let leaf ← simpleExpr operand
      leafSegment operand.span leaf
  | .binary span left _ right => do
      let _ ← bitExpr left
      let _ ← bitExpr right
      verbatimSegment span

def simpleExpr : Grammar.SimpleExpr → Annotator Leaf
  | .subquery span _ query => do
      let statement ← subquery query
      return .segment (.expression (.subquery span statement))
  | .marker span => return .value (.marker (← marker span))
  | .literal node => return .value (← literal node)
  | .call node => return .segment (.expression (.call (← functionCall node)))
  | .column node => return .segment (.expression (.column (← column node)))
  | .unary span _ operand => do
      let _ ← simpleExpr operand
      return .segment (← verbatimSegment span)
  | .row span items => do
      let _ ← exprs items
      return .segment (← verbatimSegment span)
  | .caseOf span operand branches otherwise => do
      simpleExpr? operand
      caseBranches branches
      expr? otherwise
      return .segment (← verbatimSegment span)

def simpleExpr? : Option Grammar.SimpleExpr → Annotator Unit
  | none => return ()
  | some node => do
      let _ ← simpleExpr node
      return ()

def expr? : Option Grammar.Expr → Annotator Unit
  | none => return ()
  | some node => do
      let _ ← expr node
      return ()

def exprs : List Grammar.Expr → Annotator (List Segment)
  | [] => return []
  | node :: rest => do
      let segment ← expr node
      let segments ← exprs rest
      return segment :: segments

def caseBranches : List Grammar.CaseBranch → Annotator Unit
  | [] => return ()
  | ⟨_, condition, result⟩ :: rest => do
      let _ ← expr condition
      let _ ← expr result
      caseBranches rest

def functionCall : Grammar.FunctionCall → Annotator Call
  | ⟨_, some call, _, _⟩ => aggregationCall call
  | ⟨_, none, some call, _⟩ => specialCall call
  | ⟨_, none, none, some call⟩ => regularCall call
  | ⟨span, none, none, none⟩ => throw (.structuralViolation .functionCall span)

def aggregationCall : Grammar.AggregationCall → Annotator Call
  | ⟨span, name, leftParen, distinct, arguments, rightParen⟩ => do
      aggregationArguments arguments
      aggregateUse ⟨span, name, leftParen, distinct, arguments, rightParen⟩

def aggregationArguments : List Grammar.AggregationArgument → Annotator Unit
  | [] => return ()
  | .expr node :: rest => do
      let _ ← expr node
      aggregationArguments rest
  | .asterisk _ :: rest => aggregationArguments rest
  | .comma _ :: rest => aggregationArguments rest

def specialCall : Grammar.SpecialCall → Annotator Call
  | .cast call => castCall call
  | .substring span arguments => do
      let _ ← exprs arguments
      verbatimCall span
  | .trim span arguments => do
      let _ ← exprs arguments
      verbatimCall span
  | .extract span _ source => do
      let _ ← expr source
      verbatimCall span

def castCall : Grammar.CastCall → Annotator Call
  | ⟨span, operand, target⟩ => do
      let _ ← expr operand
      report (.castFound (← dataType target.name) span)
      verbatimCall span

def regularCall : Grammar.RegularCall → Annotator Call
  | ⟨span, _, arguments, _⟩ => do
      let _ ← exprs arguments
      verbatimCall span

def orderItem : Grammar.OrderItem → Annotator OrderItem
  | ⟨_, some node, _, _, _, descending⟩ =>
      return .column (← column node) (directionOf descending)
  | ⟨_, none, some number, _, _, descending⟩ =>
      return .index number (← position number) (directionOf descending)
  | ⟨_, none, none, some node, _, descending⟩ => do
      let _ ← expr node
      return .expression node.span (← textAt node.span) (directionOf descending)
  | ⟨span, none, none, none, _, _⟩ => throw (.structuralViolation .orderByItem span)

def orderItems : List Grammar.OrderItem → Annotator (List OrderItem)
  | [] => return []
  | node :: rest => do
      let item ← orderItem node
      let items ← orderItems rest
      return item :: items

def orderClause : Grammar.OrderClause → Annotator OrderList
  | ⟨span, items⟩ => return ⟨span, ← orderItems items⟩

def orderClause? : Option Grammar.OrderClause → Annotator (Option OrderList)
  | none => return none
  | some clause => return some (← orderClause clause)

def conditionClause? : Option Grammar.ConditionClause → Annotator (Option Condition)
  | none => return none
  | some ⟨span, node⟩ => return some ⟨span, ← expr node⟩

def selectItem : Grammar.SelectItem → Annotator SelectItem
  | .shorthand span => return .shorthand span none
  | .qualifiedShorthand span owner => return .shorthand span (some (← placedName owner))
  | .expr span node itemLabel => do
      let segment ← expr node
      let itemLabel ← placedName? itemLabel
      return .expression span segment itemLabel

def selectItems : List Grammar.SelectItem → Annotator (List SelectItem)
  | [] => return []
  | node :: rest => do
      let item ← selectItem node
      let items ← selectItems rest
      return item :: items

/-- The clauses are visited in the order of the source. -/
def select : Grammar.Select → Annotator Statement
  | ⟨span, distinct, ⟨listSpan, items⟩, tableList, condition, grouping, having, ordering⟩ => do
      let items ← selectItems items
      let tables ← tables? tableList
      let condition ← conditionClause? condition
      let grouping ← orderClause? grouping
      let having ← conditionClause? having
      let ordering ← orderClause? ordering
      let progress ← get
      return ⟨span, ⟨listSpan, distinct.isSome, items⟩, tables, condition, grouping, having,
        ordering, progress.markers⟩

def subquery : Grammar.Subquery → Annotator Statement
  | ⟨span, _, node, _⟩ => do
      report (.subqueryStarted span)
      select node

end

/-- A statement of its own numbers its markers from zero. -/
def statement (node : Grammar.Select) : Annotator Statement := do
  modify fun progress => { progress with markers := 0 }
  report (.statementStarted node.span)
  let result ← select node
  report (.statementFinished result.markers)
  return result

end Annotate

end AnnotatedSql
