/-
This file counts the parameter markers under the nodes of a tree, and shows that an annotation that
succeeds has come on by that many.
-/

import AnnotatedSql.Proofs.Annotate.Numbering
import AnnotatedSql.Proofs.Annotate.Outcome

namespace AnnotatedSql

/-! ### Markers under a node -/

namespace Grammar

mutual

/-- The number of parameter markers under an expression. -/
def Expr.markerCount : Expr → Nat
  | .logical _ left _ right => left.markerCount + right.markerCount
  | .xor _ left right => left.markerCount + right.markerCount
  | .not _ _ operand => operand.markerCount
  | .paren _ inner => inner.markerCount
  | .primary inner => inner.markerCount

def Expr.markerCountIn : Option Expr → Nat
  | none => 0
  | some node => node.markerCount

def Expr.markerCountAmong : List Expr → Nat
  | [] => 0
  | first :: rest => first.markerCount + Expr.markerCountAmong rest

def BooleanPrimary.markerCount : BooleanPrimary → Nat
  | .isTest _ operand _ _ => operand.markerCount
  | .comparison _ left _ right => left.markerCount + right.markerCount
  | .quantified _ left _ _ query => left.markerCount + query.markerCount
  | .predicate inner => inner.markerCount

def Predicate.markerCount : Predicate → Nat
  | .inSubquery _ operand _ query => operand.markerCount + query.markerCount
  | .inList _ operand _ _ items _ => operand.markerCount + Expr.markerCountAmong items
  | .between _ operand _ lower upper =>
      operand.markerCount + (lower.markerCount + upper.markerCount)
  | .like _ operand _ pattern escape =>
      operand.markerCount + (pattern.markerCount + SimpleExpr.markerCountIn escape)
  | .bitExpr operand => operand.markerCount

def BitExpr.markerCount : BitExpr → Nat
  | .binary _ left _ right => left.markerCount + right.markerCount
  | .simple operand => operand.markerCount

def SimpleExpr.markerCount : SimpleExpr → Nat
  | .subquery _ _ query => query.markerCount
  | .marker _ => 1
  | .literal _ | .column _ => 0
  | .call node => node.markerCount
  | .unary _ _ operand => operand.markerCount
  | .row _ items => Expr.markerCountAmong items
  | .caseOf _ operand branches otherwise =>
      SimpleExpr.markerCountIn operand +
        (CaseBranch.markerCountAmong branches + Expr.markerCountIn otherwise)

def SimpleExpr.markerCountIn : Option SimpleExpr → Nat
  | none => 0
  | some node => node.markerCount

def CaseBranch.markerCountAmong : List CaseBranch → Nat
  | [] => 0
  | ⟨_, condition, result⟩ :: rest =>
      condition.markerCount + (result.markerCount + CaseBranch.markerCountAmong rest)

/-- Only the slot that says of which sort the call is counts. -/
def FunctionCall.markerCount : FunctionCall → Nat
  | ⟨_, some call, _, _⟩ => call.markerCount
  | ⟨_, none, some call, _⟩ => call.markerCount
  | ⟨_, none, none, some call⟩ => call.markerCount
  | ⟨_, none, none, none⟩ => 0

def AggregationCall.markerCount : AggregationCall → Nat
  | ⟨_, _, _, _, arguments, _⟩ => AggregationArgument.markerCountAmong arguments

def AggregationArgument.markerCountAmong : List AggregationArgument → Nat
  | [] => 0
  | .expr node :: rest => node.markerCount + AggregationArgument.markerCountAmong rest
  | .asterisk _ :: rest | .comma _ :: rest => AggregationArgument.markerCountAmong rest

def SpecialCall.markerCount : SpecialCall → Nat
  | .cast call => call.markerCount
  | .substring _ arguments | .trim _ arguments => Expr.markerCountAmong arguments
  | .extract _ _ source => source.markerCount

def CastCall.markerCount : CastCall → Nat
  | ⟨_, operand, _⟩ => operand.markerCount

def RegularCall.markerCount : RegularCall → Nat
  | ⟨_, _, arguments, _⟩ => Expr.markerCountAmong arguments

/-- Only the slot that says of which sort the item is counts. -/
def OrderItem.markerCount : OrderItem → Nat
  | ⟨_, none, none, some node, _, _⟩ => node.markerCount
  | _ => 0

def OrderItem.markerCountAmong : List OrderItem → Nat
  | [] => 0
  | first :: rest => first.markerCount + OrderItem.markerCountAmong rest

def OrderClause.markerCount : OrderClause → Nat
  | ⟨_, items⟩ => OrderItem.markerCountAmong items

def OrderClause.markerCountIn : Option OrderClause → Nat
  | none => 0
  | some clause => clause.markerCount

def ConditionClause.markerCountIn : Option ConditionClause → Nat
  | none => 0
  | some ⟨_, node⟩ => node.markerCount

def SelectItem.markerCount : SelectItem → Nat
  | .shorthand _ | .qualifiedShorthand _ _ => 0
  | .expr _ node _ => node.markerCount

def SelectItem.markerCountAmong : List SelectItem → Nat
  | [] => 0
  | first :: rest => first.markerCount + SelectItem.markerCountAmong rest

def Select.markerCount : Select → Nat
  | ⟨_, _, ⟨_, items⟩, _, condition, grouping, having, ordering⟩ =>
      SelectItem.markerCountAmong items + (ConditionClause.markerCountIn condition +
        (OrderClause.markerCountIn grouping + (ConditionClause.markerCountIn having +
          OrderClause.markerCountIn ordering)))

def Subquery.markerCount : Subquery → Nat
  | ⟨_, _, node, _⟩ => node.markerCount

end

end Grammar

/-! ### Annotations that come on by a number -/

/-- An annotation that succeeds has come on by the given number of markers. -/
def Counts {Value : Type} (source : Text) (count : Nat) (annotator : Annotator Value) : Prop :=
  ∀ progress, annotator.Ensures source progress fun _ after =>
    after.markers = progress.markers + count

section
variable {Value Result : Type} {source : Text} {count further : Nat} {annotator : Annotator Value}
  {next : Value → Annotator Result}

theorem Counts.bind (first : Counts source count annotator)
    (rest : ∀ value, Counts source further (next value)) :
    Counts source (count + further) (annotator >>= next) := by
  intro progress
  rw [Annotator.ensures_bind]
  refine (first progress).mono fun value middle come => (rest value middle).mono ?_
  intro _ after further
  rw [further, come, Nat.add_assoc]

/-- What numbers no marker does not come on. -/
theorem Quiet.counts (quiet : Quiet source annotator) : Counts source 0 annotator :=
  fun progress value after run => (quiet progress.markers progress.events value after run).1

/-- The later steps number no marker. -/
theorem Counts.before (first : Counts source count annotator)
    (rest : ∀ value, Quiet source (next value)) : Counts source count (annotator >>= next) :=
  first.bind fun value => (rest value).counts

/-- The first step numbers no marker. -/
theorem Counts.after (first : Quiet source annotator)
    (rest : ∀ value, Counts source count (next value)) :
    Counts source count (annotator >>= next) := by
  rw [← Nat.zero_add count]
  exact first.counts.bind rest

/-- A walk over no tokens numbers no marker. -/
theorem Walks.quiet {holds : Value → Prop} (walks : ∀ offset, Walks source offset [] annotator holds) :
    Quiet source annotator :=
  fun offset => (walks offset).mono fun _ _ => trivial

theorem quiet_get : Quiet source (get : Annotator Progress) :=
  fun _ => walks_get.mono fun _ _ => trivial

end

namespace Annotate

variable {source : Text}

/-! ### Steps that number nothing -/

theorem quiet_verbatimSegment (span : Span) : Quiet source (verbatimSegment span) :=
  Walks.quiet fun _ => walks_verbatimSegment span

theorem quiet_keptPredicate (span : Span) : Quiet source (keptPredicate span) :=
  Walks.quiet fun _ => walks_keptPredicate span

theorem quiet_leafSegment (span : Span) (leaf : Leaf) : Quiet source (leafSegment span leaf) :=
  Walks.quiet fun _ => walks_leafSegment span leaf

theorem quiet_comparison (span operator : Span) (left right : Segment) :
    Quiet source (comparison span operator left right) :=
  Walks.quiet fun _ => walks_comparison span operator left right

theorem quiet_test (span : Span) (operand : Segment) (negation : Option Span)
    (comparand : Text → Comparand) : Quiet source (test span operand negation comparand) := by
  unfold test
  split
  · exact quiet_read.bind fun _ => quiet_pure
  · exact quiet_keptPredicate span

theorem quiet_literal (node : Grammar.Literal) : Quiet source (literal node) :=
  Walks.quiet fun _ => walks_literal node

theorem quiet_tables (node : Grammar.NameList) : Quiet source (tables node) :=
  quiet_mapM node.names quiet_table

theorem quiet_columns (node : Grammar.NameList) : Quiet source (columns node) :=
  quiet_mapM node.names quiet_column

theorem marker_counts (span : Span) : Counts source 1 (marker span) := by
  intro progress index after run
  obtain ⟨_, rfl⟩ := Prod.mk.inj run
  rfl

/-! ### Nodes -/

mutual

theorem expr_counts (node : Grammar.Expr) : Counts source node.markerCount (expr node) := by
  cases node with
  | primary inner =>
      rw [expr, Grammar.Expr.markerCount]
      exact booleanPrimary_counts inner
  | logical span left operator right =>
      rw [expr, Grammar.Expr.markerCount]
      refine (expr_counts left).bind fun _ => (expr_counts right).before fun _ => ?_
      refine (quiet_textAt operator).bind fun _ => ?_
      split
      · exact quiet_pure
      · exact quiet_throw
  | xor span left right =>
      rw [expr, Grammar.Expr.markerCount]
      refine (expr_counts left).bind fun _ => (expr_counts right).before fun _ => ?_
      exact (quiet_report rfl).bind fun _ => quiet_pure
  | not span operator operand =>
      rw [expr, Grammar.Expr.markerCount]
      exact expr_counts operand
  | paren span inner =>
      rw [expr, Grammar.Expr.markerCount]
      exact expr_counts inner

theorem booleanPrimary_counts (node : Grammar.BooleanPrimary) :
    Counts source node.markerCount (booleanPrimary node) := by
  cases node with
  | predicate inner =>
      rw [booleanPrimary, Grammar.BooleanPrimary.markerCount]
      exact predicate_counts inner
  | isTest span operand negation value =>
      rw [booleanPrimary, Grammar.BooleanPrimary.markerCount]
      refine (booleanPrimary_counts operand).before fun _ => ?_
      exact (quiet_report rfl).bind fun _ => quiet_verbatimSegment span
  | comparison span left operator right =>
      rw [booleanPrimary, Grammar.BooleanPrimary.markerCount]
      refine (booleanPrimary_counts left).bind fun _ => ?_
      exact (predicate_counts right).before fun _ => quiet_comparison span operator _ _
  | quantified span left operator quantifier query =>
      rw [booleanPrimary, Grammar.BooleanPrimary.markerCount]
      refine (booleanPrimary_counts left).bind fun _ => ?_
      exact (subquery_counts query).before fun _ => quiet_pure

theorem predicate_counts (node : Grammar.Predicate) :
    Counts source node.markerCount (predicate node) := by
  cases node with
  | bitExpr operand =>
      rw [predicate, Grammar.Predicate.markerCount]
      exact bitExpr_counts operand
  | inSubquery span operand negation query =>
      rw [predicate, Grammar.Predicate.markerCount]
      refine (bitExpr_counts operand).bind fun _ => ?_
      exact (subquery_counts query).before fun _ => quiet_test span _ negation _
  | inList span operand negation leftParen items rightParen =>
      rw [predicate, Grammar.Predicate.markerCount]
      refine (bitExpr_counts operand).bind fun _ => ?_
      exact (exprs_counts items).before fun _ => quiet_test span _ negation _
  | between span operand negation lower upper =>
      rw [predicate, Grammar.Predicate.markerCount]
      refine (bitExpr_counts operand).bind fun _ => (bitExpr_counts lower).bind fun _ => ?_
      exact (predicate_counts upper).before fun _ => quiet_test span _ negation _
  | like span operand negation pattern escape =>
      rw [predicate, Grammar.Predicate.markerCount]
      refine (bitExpr_counts operand).bind fun _ => (simpleExpr_counts pattern).bind fun _ => ?_
      exact (simpleExpr?_counts escape).before fun _ => quiet_keptPredicate span

theorem bitExpr_counts (node : Grammar.BitExpr) :
    Counts source node.markerCount (bitExpr node) := by
  cases node with
  | simple operand =>
      rw [bitExpr, Grammar.BitExpr.markerCount]
      exact (simpleExpr_counts operand).before fun leaf => quiet_leafSegment operand.span leaf
  | binary span left operator right =>
      rw [bitExpr, Grammar.BitExpr.markerCount]
      refine (bitExpr_counts left).bind fun _ => ?_
      exact (bitExpr_counts right).before fun _ => quiet_verbatimSegment span

theorem simpleExpr_counts (node : Grammar.SimpleExpr) :
    Counts source node.markerCount (simpleExpr node) := by
  have kept (span : Span) : Quiet source
      (do return Leaf.segment (← verbatimSegment span) : Annotator Leaf) :=
    (quiet_verbatimSegment span).bind fun _ => quiet_pure
  cases node with
  | subquery span word query =>
      rw [simpleExpr, Grammar.SimpleExpr.markerCount]
      exact (subquery_counts query).before fun _ => quiet_pure
  | marker span =>
      rw [simpleExpr, Grammar.SimpleExpr.markerCount]
      exact (marker_counts span).before fun _ => quiet_pure
  | literal node =>
      rw [simpleExpr, Grammar.SimpleExpr.markerCount]
      exact ((quiet_literal node).bind fun _ => quiet_pure).counts
  | call node =>
      rw [simpleExpr, Grammar.SimpleExpr.markerCount]
      exact (functionCall_counts node).before fun _ => quiet_pure
  | column node =>
      rw [simpleExpr, Grammar.SimpleExpr.markerCount]
      exact ((quiet_column node).bind fun _ => quiet_pure).counts
  | unary span operator operand =>
      rw [simpleExpr, Grammar.SimpleExpr.markerCount]
      exact (simpleExpr_counts operand).before fun _ => kept span
  | row span items =>
      rw [simpleExpr, Grammar.SimpleExpr.markerCount]
      exact (exprs_counts items).before fun _ => kept span
  | caseOf span operand branches otherwise =>
      rw [simpleExpr, Grammar.SimpleExpr.markerCount]
      refine (simpleExpr?_counts operand).bind fun _ => (caseBranches_counts branches).bind fun _ => ?_
      exact (expr?_counts otherwise).before fun _ => kept span

theorem simpleExpr?_counts (node : Option Grammar.SimpleExpr) :
    Counts source (Grammar.SimpleExpr.markerCountIn node) (simpleExpr? node) := by
  cases node with
  | none =>
      rw [simpleExpr?, Grammar.SimpleExpr.markerCountIn]
      exact quiet_pure.counts
  | some node =>
      rw [simpleExpr?, Grammar.SimpleExpr.markerCountIn]
      exact (simpleExpr_counts node).before fun _ => quiet_pure

theorem expr?_counts (node : Option Grammar.Expr) :
    Counts source (Grammar.Expr.markerCountIn node) (expr? node) := by
  cases node with
  | none =>
      rw [expr?, Grammar.Expr.markerCountIn]
      exact quiet_pure.counts
  | some node =>
      rw [expr?, Grammar.Expr.markerCountIn]
      exact (expr_counts node).before fun _ => quiet_pure

theorem exprs_counts (nodes : List Grammar.Expr) :
    Counts source (Grammar.Expr.markerCountAmong nodes) (exprs nodes) := by
  cases nodes with
  | nil =>
      rw [exprs, Grammar.Expr.markerCountAmong]
      exact quiet_pure.counts
  | cons first rest =>
      rw [exprs, Grammar.Expr.markerCountAmong]
      refine (expr_counts first).bind fun _ => ?_
      exact (exprs_counts rest).before fun _ => quiet_pure

theorem caseBranches_counts (nodes : List Grammar.CaseBranch) :
    Counts source (Grammar.CaseBranch.markerCountAmong nodes) (caseBranches nodes) := by
  cases nodes with
  | nil =>
      rw [caseBranches, Grammar.CaseBranch.markerCountAmong]
      exact quiet_pure.counts
  | cons first rest =>
      obtain ⟨span, condition, result⟩ := first
      rw [caseBranches, Grammar.CaseBranch.markerCountAmong]
      refine (expr_counts condition).bind fun _ => (expr_counts result).bind fun _ => ?_
      exact caseBranches_counts rest

theorem functionCall_counts (node : Grammar.FunctionCall) :
    Counts source node.markerCount (functionCall node) := by
  obtain ⟨span, aggregation, special, regular⟩ := node
  cases aggregation with
  | some call =>
      rw [functionCall, Grammar.FunctionCall.markerCount]
      exact aggregationCall_counts call
  | none =>
  cases special with
  | some call =>
      rw [functionCall, Grammar.FunctionCall.markerCount]
      exact specialCall_counts call
  | none =>
  cases regular with
  | some call =>
      rw [functionCall, Grammar.FunctionCall.markerCount]
      exact regularCall_counts call
  | none =>
      rw [functionCall, Grammar.FunctionCall.markerCount]
      exact quiet_throw.counts

theorem aggregationCall_counts (node : Grammar.AggregationCall) :
    Counts source node.markerCount (aggregationCall node) := by
  obtain ⟨span, name, leftParen, distinct, arguments, rightParen⟩ := node
  rw [aggregationCall, Grammar.AggregationCall.markerCount]
  exact (aggregationArguments_counts arguments).before fun _ => quiet_aggregateUse _

theorem aggregationArguments_counts (nodes : List Grammar.AggregationArgument) :
    Counts source (Grammar.AggregationArgument.markerCountAmong nodes)
      (aggregationArguments nodes) := by
  cases nodes with
  | nil =>
      rw [aggregationArguments, Grammar.AggregationArgument.markerCountAmong]
      exact quiet_pure.counts
  | cons first rest =>
      cases first with
      | expr node =>
          rw [aggregationArguments, Grammar.AggregationArgument.markerCountAmong]
          exact (expr_counts node).bind fun _ => aggregationArguments_counts rest
      | asterisk span =>
          rw [aggregationArguments, Grammar.AggregationArgument.markerCountAmong]
          exact aggregationArguments_counts rest
      | comma span =>
          rw [aggregationArguments, Grammar.AggregationArgument.markerCountAmong]
          exact aggregationArguments_counts rest

theorem specialCall_counts (node : Grammar.SpecialCall) :
    Counts source node.markerCount (specialCall node) := by
  cases node with
  | cast call =>
      rw [specialCall, Grammar.SpecialCall.markerCount]
      exact castCall_counts call
  | substring span arguments =>
      rw [specialCall, Grammar.SpecialCall.markerCount]
      exact (exprs_counts arguments).before fun _ => quiet_verbatimCall span
  | extract span field inner =>
      rw [specialCall, Grammar.SpecialCall.markerCount]
      exact (expr_counts inner).before fun _ => quiet_verbatimCall span
  | trim span arguments =>
      rw [specialCall, Grammar.SpecialCall.markerCount]
      exact (exprs_counts arguments).before fun _ => quiet_verbatimCall span

theorem castCall_counts (node : Grammar.CastCall) :
    Counts source node.markerCount (castCall node) := by
  obtain ⟨span, operand, target⟩ := node
  rw [castCall, Grammar.CastCall.markerCount]
  refine (expr_counts operand).before fun _ => (quiet_textAt target.name).bind fun _ => ?_
  exact (quiet_report rfl).bind fun _ => quiet_verbatimCall span

theorem regularCall_counts (node : Grammar.RegularCall) :
    Counts source node.markerCount (regularCall node) := by
  obtain ⟨span, name, arguments, asterisk⟩ := node
  rw [regularCall, Grammar.RegularCall.markerCount]
  exact (exprs_counts arguments).before fun _ => quiet_verbatimCall span

theorem orderItem_counts (node : Grammar.OrderItem) :
    Counts source node.markerCount (orderItem node) := by
  obtain ⟨span, column, number, inner, ascending, descending⟩ := node
  cases column with
  | some name =>
      rw [orderItem, Grammar.OrderItem.markerCount]
      · exact ((quiet_column name).bind fun _ => quiet_pure).counts
      · nofun
  | none =>
  cases number with
  | some number =>
      rw [orderItem, Grammar.OrderItem.markerCount]
      · exact ((quiet_position number).bind fun _ => quiet_pure).counts
      · nofun
  | none =>
  cases inner with
  | some node =>
      rw [orderItem, Grammar.OrderItem.markerCount]
      exact (expr_counts node).before fun _ => (quiet_textAt node.span).bind fun _ => quiet_pure
  | none =>
      rw [orderItem, Grammar.OrderItem.markerCount]
      · exact quiet_throw.counts
      · nofun

theorem orderItems_counts (nodes : List Grammar.OrderItem) :
    Counts source (Grammar.OrderItem.markerCountAmong nodes) (orderItems nodes) := by
  cases nodes with
  | nil =>
      rw [orderItems, Grammar.OrderItem.markerCountAmong]
      exact quiet_pure.counts
  | cons first rest =>
      rw [orderItems, Grammar.OrderItem.markerCountAmong]
      refine (orderItem_counts first).bind fun _ => ?_
      exact (orderItems_counts rest).before fun _ => quiet_pure

theorem orderClause_counts (node : Grammar.OrderClause) :
    Counts source node.markerCount (orderClause node) := by
  obtain ⟨span, items⟩ := node
  rw [orderClause, Grammar.OrderClause.markerCount]
  exact (orderItems_counts items).before fun _ => quiet_pure

theorem orderClause?_counts (clause : Option Grammar.OrderClause) :
    Counts source (Grammar.OrderClause.markerCountIn clause) (orderClause? clause) := by
  cases clause with
  | none =>
      rw [orderClause?, Grammar.OrderClause.markerCountIn]
      exact quiet_pure.counts
  | some clause =>
      rw [orderClause?, Grammar.OrderClause.markerCountIn]
      exact (orderClause_counts clause).before fun _ => quiet_pure

theorem conditionClause?_counts (clause : Option Grammar.ConditionClause) :
    Counts source (Grammar.ConditionClause.markerCountIn clause) (conditionClause? clause) := by
  cases clause with
  | none =>
      rw [conditionClause?, Grammar.ConditionClause.markerCountIn]
      exact quiet_pure.counts
  | some clause =>
      obtain ⟨span, node⟩ := clause
      rw [conditionClause?, Grammar.ConditionClause.markerCountIn]
      exact (expr_counts node).before fun _ => quiet_pure

theorem selectItem_counts (node : Grammar.SelectItem) :
    Counts source node.markerCount (selectItem node) := by
  cases node with
  | shorthand span =>
      rw [selectItem, Grammar.SelectItem.markerCount]
      exact quiet_pure.counts
  | qualifiedShorthand span owner =>
      rw [selectItem, Grammar.SelectItem.markerCount]
      exact ((quiet_placedName owner).bind fun _ => quiet_pure).counts
  | expr span node itemLabel =>
      rw [selectItem, Grammar.SelectItem.markerCount]
      refine (expr_counts node).before fun _ => ?_
      exact (quiet_placedName? itemLabel).bind fun _ => quiet_pure

theorem selectItems_counts (nodes : List Grammar.SelectItem) :
    Counts source (Grammar.SelectItem.markerCountAmong nodes) (selectItems nodes) := by
  cases nodes with
  | nil =>
      rw [selectItems, Grammar.SelectItem.markerCountAmong]
      exact quiet_pure.counts
  | cons first rest =>
      rw [selectItems, Grammar.SelectItem.markerCountAmong]
      refine (selectItem_counts first).bind fun _ => ?_
      exact (selectItems_counts rest).before fun _ => quiet_pure

/-- The clauses come on by their markers one after the other. -/
theorem select_counts (node : Grammar.Select) : Counts source node.markerCount (select node) := by
  obtain ⟨span, distinct, ⟨listSpan, items⟩, tableList, condition, grouping, having, ordering⟩ :=
    node
  rw [select, Grammar.Select.markerCount]
  refine (selectItems_counts items).bind fun _ => ?_
  refine Counts.after (quiet_tables? tableList) fun _ => ?_
  refine (conditionClause?_counts condition).bind fun _ => ?_
  refine (orderClause?_counts grouping).bind fun _ => ?_
  refine (conditionClause?_counts having).bind fun _ => ?_
  refine (orderClause?_counts ordering).before fun _ => ?_
  exact quiet_get.bind fun _ => quiet_pure

theorem subquery_counts (node : Grammar.Subquery) :
    Counts source node.markerCount (subquery node) := by
  obtain ⟨span, leftParen, child, rightParen⟩ := node
  rw [subquery, Grammar.Subquery.markerCount]
  exact Counts.after (quiet_report rfl) fun _ => select_counts child

end

end Annotate

end AnnotatedSql
