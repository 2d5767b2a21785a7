/-
This file shows that the annotation of a derived tree fails only at the numbers of order items that
name no position, and at the first of them.
-/

import AnnotatedSql.Proofs.Annotate.Node
import AnnotatedSql.Proofs.Annotate.Rejection

namespace AnnotatedSql

open Grammar (Node DerivesWidely)

variable {source : Text}

namespace Annotate

/-- An optional expression is refused by itself and as a list of at most one. -/
structure RefusesOptional (source : Text) (node : Option Grammar.Expr) : Prop where
  alone : Refuses source (rejected source (Grammar.Expr.partsIn node)) (expr? node)
  listed : Refuses source (rejected source (Grammar.Expr.partsIn node)) (exprs node.toList)

end Annotate

/-- The annotation of a node fails at the first rejected number in it. -/
@[simp] def Grammar.Node.Refused (source : Text) (node : Node) : Prop :=
  match node with
  | .expr node => Refuses source (rejected source node.parts) (Annotate.expr node)
  | .primary node => Refuses source (rejected source node.parts) (Annotate.booleanPrimary node)
  | .predicate node => Refuses source (rejected source node.parts) (Annotate.predicate node)
  | .bitExpr node => Refuses source (rejected source node.parts) (Annotate.bitExpr node)
  | .simpleExpr node => Refuses source (rejected source node.parts) (Annotate.simpleExpr node)
  | .exprs nodes | .regularArguments nodes _ =>
      Refuses source (rejected source (Expr.partsAmong nodes)) (Annotate.exprs nodes)
  | .expr? node | .ledExpr _ node | .separatedExpr _ node => Annotate.RefusesOptional source node
  | .simpleExpr? node | .escape node =>
      Refuses source (rejected source (SimpleExpr.partsIn node)) (Annotate.simpleExpr? node)
  | .branches nodes =>
      Refuses source (rejected source (CaseBranch.partsAmong nodes)) (Annotate.caseBranches nodes)
  | .argumentChain nodes | .arguments nodes =>
      Refuses source (rejected source (AggregationArgument.partsAmong nodes))
        (Annotate.aggregationArguments nodes)
  | .aggregation node => Refuses source (rejected source node.parts) (Annotate.aggregationCall node)
  | .special node => Refuses source (rejected source node.parts) (Annotate.specialCall node)
  | .regular node => Refuses source (rejected source node.parts) (Annotate.regularCall node)
  | .orderTarget column number inner => ∀ span ascending descending,
      let item : OrderItem := ⟨span, column, number, inner, ascending, descending⟩
      Refuses source (rejected source item.parts) (Annotate.orderItem item)
  | .orderItem node => Refuses source (rejected source node.parts) (Annotate.orderItem node)
  | .orderItems nodes =>
      Refuses source (rejected source (OrderItem.partsAmong nodes)) (Annotate.orderItems nodes)
  | .ordering _ clause =>
      Refuses source (rejected source (OrderClause.partsIn clause)) (Annotate.orderClause? clause)
  | .condition _ clause =>
      Refuses source (rejected source (ConditionClause.partsIn clause))
        (Annotate.conditionClause? clause)
  | .selectItem node => Refuses source (rejected source node.parts) (Annotate.selectItem node)
  | .selectItems nodes =>
      Refuses source (rejected source (SelectItem.partsAmong nodes)) (Annotate.selectItems nodes)
  | .select node => Refuses source (rejected source node.parts) (Annotate.select node)
  | .subquery node => Refuses source (rejected source node.parts) (Annotate.subquery node)

namespace Annotate

open Grammar

variable {span sign : Span} {negation : Option Span}

/-! ### Expressions -/

section
variable {left right inner : Grammar.Expr}

theorem refuses_logical (first : (Node.expr left).Refused source)
    (known : (Connective.ofText? (sign.text source)).isSome)
    (second : (Node.expr right).Refused source) :
    (Node.expr (.logical span left sign right)).Refused source := by
  rw [Node.Refused, expr, Expr.parts, rejected_span, rejected_append, rejected_span]
  apply first.bind
  intro _
  apply second.before
  intro _
  apply refuses_textAt
  obtain ⟨connective, found⟩ := Option.isSome_iff_exists.mp known
  rw [found]
  exact succeeds_pure

theorem refuses_xor (first : (Node.expr left).Refused source)
    (second : (Node.expr right).Refused source) :
    (Node.expr (.xor span left right)).Refused source := by
  rw [Node.Refused, expr, Expr.parts, rejected_span, rejected_append]
  apply first.bind
  intro _
  apply second.before
  intro _
  exact (succeeds_report _).after fun _ => succeeds_pure

theorem refuses_negation (refused : (Node.expr inner).Refused source) :
    (Node.expr (.not span sign inner)).Refused source := by
  rw [Node.Refused, expr, Expr.parts, rejected_span, rejected_span]
  exact refused

theorem refuses_paren (refused : (Node.expr inner).Refused source) :
    (Node.expr (.paren span inner)).Refused source := by
  rw [Node.Refused, expr, Expr.parts, rejected_span]
  exact refused

end

theorem refuses_primary {inner : Grammar.BooleanPrimary}
    (refused : (Node.primary inner).Refused source) :
    (Node.expr (.primary inner)).Refused source := by
  rw [Node.Refused, expr, Expr.parts]
  exact refused

/-! ### Boolean primaries -/

section
variable {left : Grammar.BooleanPrimary}

theorem refuses_isTest {value : Span} (refused : (Node.primary left).Refused source) :
    (Node.primary (.isTest span left negation value)).Refused source := by
  rw [Node.Refused, booleanPrimary, BooleanPrimary.parts, rejected_span, rejected_append,
    rejected_append, rejected_ofSpan, rejected_span, rejected_nil, List.append_nil, List.append_nil]
  apply refused.before
  intro _
  exact (succeeds_report _).after fun _ => succeeds_verbatimSegment span

theorem refuses_comparison {right : Grammar.Predicate}
    (first : (Node.primary left).Refused source) (second : (Node.predicate right).Refused source) :
    (Node.primary (.comparison span left sign right)).Refused source := by
  rw [Node.Refused, booleanPrimary, BooleanPrimary.parts, rejected_span, rejected_append,
    rejected_span]
  apply first.bind
  intro _
  apply second.before
  intro _
  exact succeeds_comparison span sign _ _

theorem refuses_quantified {query : Grammar.Subquery} {quantifier : Span}
    (first : (Node.primary left).Refused source) (second : (Node.subquery query).Refused source) :
    (Node.primary (.quantified span left sign quantifier query)).Refused source := by
  rw [Node.Refused, booleanPrimary, BooleanPrimary.parts, rejected_span, rejected_append,
    rejected_span, rejected_span]
  apply first.bind
  intro _
  apply second.before
  intro _
  exact succeeds_pure

theorem refuses_predicate {inner : Grammar.Predicate}
    (refused : (Node.predicate inner).Refused source) :
    (Node.primary (.predicate inner)).Refused source := by
  rw [Node.Refused, booleanPrimary, BooleanPrimary.parts]
  exact refused

end

/-! ### Predicates -/

section
variable {operand : Grammar.BitExpr}

theorem refuses_inSubquery {query : Grammar.Subquery}
    (first : (Node.bitExpr operand).Refused source)
    (second : (Node.subquery query).Refused source) :
    (Node.predicate (.inSubquery span operand negation query)).Refused source := by
  rw [Node.Refused, predicate, Predicate.parts, rejected_span, rejected_append, rejected_append,
    rejected_ofSpan, List.append_nil]
  apply first.bind
  intro _
  apply second.before
  intro _
  exact succeeds_test span _ negation _

theorem refuses_inList {items : List Grammar.Expr} {leftParen rightParen : Span}
    (first : (Node.bitExpr operand).Refused source) (second : (Node.exprs items).Refused source) :
    (Node.predicate (.inList span operand negation leftParen items rightParen)).Refused source := by
  rw [Node.Refused, predicate, Predicate.parts]
  simp only [rejected_span, rejected_append, rejected_ofSpan, rejected_nil, List.append_nil]
  apply first.bind
  intro _
  apply second.before
  intro _
  exact succeeds_test span _ negation _

theorem refuses_between {lower : Grammar.BitExpr} {upper : Grammar.Predicate}
    (first : (Node.bitExpr operand).Refused source) (second : (Node.bitExpr lower).Refused source)
    (third : (Node.predicate upper).Refused source) :
    (Node.predicate (.between span operand negation lower upper)).Refused source := by
  rw [Node.Refused, predicate, Predicate.parts]
  simp only [rejected_span, rejected_append, rejected_ofSpan, List.append_assoc]
  apply first.bind
  intro _
  apply second.bind
  intro _
  apply third.before
  intro _
  exact succeeds_test span _ negation _

theorem refuses_like {pattern : Grammar.SimpleExpr} {escape : Option Grammar.SimpleExpr}
    (first : (Node.bitExpr operand).Refused source)
    (second : (Node.simpleExpr pattern).Refused source)
    (third : (Node.escape escape).Refused source) :
    (Node.predicate (.like span operand negation pattern escape)).Refused source := by
  rw [Node.Refused, predicate, Predicate.parts]
  simp only [rejected_span, rejected_append, rejected_ofSpan, List.append_assoc]
  apply first.bind
  intro _
  apply second.bind
  intro _
  apply third.before
  intro _
  exact succeeds_keptPredicate span

theorem refuses_bitExpr (refused : (Node.bitExpr operand).Refused source) :
    (Node.predicate (.bitExpr operand)).Refused source := by
  rw [Node.Refused, predicate, Predicate.parts]
  exact refused

end

/-! ### Bit expressions and simple expressions -/

theorem refuses_binary {left right : Grammar.BitExpr} (first : (Node.bitExpr left).Refused source)
    (second : (Node.bitExpr right).Refused source) :
    (Node.bitExpr (.binary span left sign right)).Refused source := by
  rw [Node.Refused, bitExpr, BitExpr.parts, rejected_span, rejected_append, rejected_span]
  apply first.bind
  intro _
  apply second.before
  intro _
  exact succeeds_verbatimSegment span

section
variable {operand : Grammar.SimpleExpr}

theorem refuses_simple (refused : (Node.simpleExpr operand).Refused source) :
    (Node.bitExpr (.simple operand)).Refused source := by
  rw [Node.Refused, bitExpr, BitExpr.parts]
  apply refused.before
  intro leaf
  exact succeeds_leafSegment operand.span leaf

/-- The last step of a simple expression that is kept as text. -/
theorem succeeds_verbatimLeaf (span : Span) :
    Succeeds source (do return Leaf.segment (← verbatimSegment span)) :=
  (succeeds_verbatimSegment span).after fun _ => succeeds_pure

theorem refuses_unary (refused : (Node.simpleExpr operand).Refused source) :
    (Node.simpleExpr (.unary span sign operand)).Refused source := by
  rw [Node.Refused, simpleExpr, SimpleExpr.parts, rejected_span, rejected_span]
  apply refused.before
  intro _
  exact succeeds_verbatimLeaf span

theorem refuses_noSimpleExpr : (Node.simpleExpr? none).Refused source := by
  rw [Node.Refused, simpleExpr?, SimpleExpr.partsIn]
  exact succeeds_pure

theorem refuses_someSimpleExpr (refused : (Node.simpleExpr operand).Refused source) :
    (Node.simpleExpr? (some operand)).Refused source := by
  rw [Node.Refused, simpleExpr?, SimpleExpr.partsIn]
  apply refused.before
  intro _
  exact succeeds_pure

end

theorem refuses_subqueryLeaf {query : Grammar.Subquery} {word : Option Span}
    (refused : (Node.subquery query).Refused source) :
    (Node.simpleExpr (.subquery span word query)).Refused source := by
  rw [Node.Refused, simpleExpr, SimpleExpr.parts, rejected_span, rejected_append, rejected_ofSpan,
    List.nil_append]
  apply refused.before
  intro _
  exact succeeds_pure

theorem refuses_marker : (Node.simpleExpr (.marker span)).Refused source := by
  rw [Node.Refused, simpleExpr, SimpleExpr.parts, rejected_span, rejected_nil]
  exact (succeeds_marker span).after fun _ => succeeds_pure

theorem refuses_literal {node : Grammar.Literal} {tokens : List Token}
    (derived : node.Derives tokens) : (Node.simpleExpr (.literal node)).Refused source := by
  rw [Node.Refused, simpleExpr, SimpleExpr.parts, rejected_of_numbers Literal.numbers_parts]
  exact (succeeds_literal derived).after fun _ => succeeds_pure

theorem refuses_column {name : Grammar.QualifiedName} :
    (Node.simpleExpr (.column name)).Refused source := by
  rw [Node.Refused, simpleExpr, SimpleExpr.parts, rejected_of_numbers QualifiedName.numbers_parts]
  exact (succeeds_column name).after fun _ => succeeds_pure

theorem refuses_row {items : List Grammar.Expr} (refused : (Node.exprs items).Refused source) :
    (Node.simpleExpr (.row span items)).Refused source := by
  rw [Node.Refused, simpleExpr, SimpleExpr.parts, rejected_span]
  apply refused.before
  intro _
  exact succeeds_verbatimLeaf span

theorem refuses_caseOf {operand : Option Grammar.SimpleExpr} {branches : List CaseBranch}
    {otherwise : Option Grammar.Expr} (first : (Node.simpleExpr? operand).Refused source)
    (second : (Node.branches branches).Refused source)
    (third : (Node.expr? otherwise).Refused source) :
    (Node.simpleExpr (.caseOf span operand branches otherwise)).Refused source := by
  rw [Node.Refused, simpleExpr, SimpleExpr.parts, rejected_span, rejected_append, rejected_append,
    List.append_assoc]
  apply first.bind
  intro _
  apply second.bind
  intro _
  apply third.alone.before
  intro _
  exact succeeds_verbatimLeaf span

theorem refuses_noBranch : (Node.branches []).Refused source := by
  rw [Node.Refused, caseBranches, CaseBranch.partsAmong]
  exact succeeds_pure

theorem refuses_branch {rest : List CaseBranch} {condition result : Grammar.Expr}
    (first : (Node.expr condition).Refused source) (second : (Node.expr result).Refused source)
    (others : (Node.branches rest).Refused source) :
    (Node.branches (⟨span, condition, result⟩ :: rest)).Refused source := by
  rw [Node.Refused, caseBranches, CaseBranch.partsAmong, rejected_span, rejected_append,
    rejected_append, List.append_assoc]
  apply first.bind
  intro _
  apply second.bind
  intro _
  exact others

/-! ### Lists of expressions -/

section
variable {node : Grammar.Expr}

theorem refuses_noExprs : (Node.exprs []).Refused source := by
  rw [Node.Refused, exprs, Expr.partsAmong]
  exact succeeds_pure

theorem refuses_cons {rest : List Grammar.Expr} (first : (Node.expr node).Refused source)
    (others : (Node.exprs rest).Refused source) : (Node.exprs (node :: rest)).Refused source := by
  rw [Node.Refused, exprs, Expr.partsAmong, rejected_append]
  apply first.bind
  intro _
  apply others.before
  intro _
  exact succeeds_pure

theorem refuses_singleExpr (refused : (Node.expr node).Refused source) :
    (Node.exprs [node]).Refused source :=
  refuses_cons refused refuses_noExprs

theorem refuses_exprs {first second : List Grammar.Expr}
    (refused : (Node.exprs first).Refused source)
    (others : (Node.exprs second).Refused source) :
    (Node.exprs (first ++ second)).Refused source := by
  rw [Node.Refused, exprs_append, Expr.partsAmong_append, rejected_append]
  apply refused.bind
  intro _
  apply others.before
  intro _
  exact succeeds_pure

theorem refusesOptional_none : RefusesOptional source none := by
  constructor
  · rw [expr?]
    exact succeeds_pure
  · exact refuses_noExprs

theorem refusesOptional_some (refused : (Node.expr node).Refused source) :
    RefusesOptional source (some node) := by
  constructor
  · rw [expr?, Expr.partsIn]
    apply refused.before
    intro _
    exact succeeds_pure
  · rw [← Expr.partsAmong_toList]
    exact refuses_singleExpr refused

theorem RefusesOptional.among {node : Option Grammar.Expr}
    (optional : RefusesOptional source node) :
    (Node.exprs node.toList).Refused source := by
  rw [Node.Refused, Expr.partsAmong_toList]
  exact optional.listed

end

/-! ### Calls -/

section
variable {node : Grammar.Expr}

theorem refuses_noArguments : (Node.arguments []).Refused source := by
  rw [Node.Refused, aggregationArguments, AggregationArgument.partsAmong]
  exact succeeds_pure

theorem refuses_argument {rest : List AggregationArgument} (first : (Node.expr node).Refused source)
    (others : (Node.arguments rest).Refused source) :
    (Node.arguments (.expr node :: rest)).Refused source := by
  rw [Node.Refused, aggregationArguments, AggregationArgument.partsAmong, rejected_append]
  apply first.bind
  intro _
  exact others

theorem refuses_comma {rest : List AggregationArgument}
    (refused : (Node.arguments rest).Refused source) :
    (Node.arguments (.comma span :: rest)).Refused source := by
  rw [Node.Refused, aggregationArguments, AggregationArgument.partsAmong, rejected_span]
  exact refused

theorem refuses_asterisk {rest : List AggregationArgument}
    (refused : (Node.arguments rest).Refused source) :
    (Node.arguments (.asterisk span :: rest)).Refused source := by
  rw [Node.Refused, aggregationArguments, AggregationArgument.partsAmong, rejected_span]
  exact refused

theorem refuses_aggregation {name leftParen rightParen : Span} {distinct : Option Span}
    {nodes : List AggregationArgument} (refused : (Node.arguments nodes).Refused source) :
    (Node.aggregation ⟨span, name, leftParen, distinct, nodes, rightParen⟩).Refused source := by
  rw [Node.Refused, aggregationCall, AggregationCall.parts]
  simp only [rejected_span, rejected_append, rejected_ofSpan, rejected_nil, List.nil_append,
    List.append_nil]
  apply refused.before
  intro _
  exact succeeds_aggregateUse _

theorem refuses_cast {target : DataType} (refused : (Node.expr node).Refused source) :
    (Node.special (.cast ⟨span, node, target⟩)).Refused source := by
  rw [Node.Refused, specialCall, castCall, SpecialCall.parts, CastCall.parts, rejected_span,
    rejected_append, rejected_of_numbers DataType.numbers_parts, List.append_nil]
  apply refused.before
  intro _
  apply (succeeds_textAt target.name).after
  intro _
  exact (succeeds_report _).after fun _ => succeeds_verbatimCall span

/-- A call is kept as text behind its arguments. -/
theorem refuses_keptCall {Value : Type} {spans : List Span} {annotator : Annotator Value}
    (refuses : Refuses source spans annotator) :
    Refuses source spans (annotator >>= fun _ => verbatimCall span) :=
  refuses.before fun _ => succeeds_verbatimCall span

theorem refuses_substring {nodes : List Grammar.Expr}
    (refused : (Node.exprs nodes).Refused source) :
    (Node.special (.substring span nodes)).Refused source := by
  rw [Node.Refused, specialCall, SpecialCall.parts, rejected_span]
  exact refuses_keptCall refused

theorem refuses_trim {nodes : List Grammar.Expr} (refused : (Node.exprs nodes).Refused source) :
    (Node.special (.trim span nodes)).Refused source := by
  rw [Node.Refused, specialCall, SpecialCall.parts, rejected_span]
  exact refuses_keptCall refused

theorem refuses_extract {field : Identifier} (refused : (Node.expr node).Refused source) :
    (Node.special (.extract span field node)).Refused source := by
  rw [Node.Refused, specialCall, SpecialCall.parts, rejected_span, rejected_append,
    rejected_of_numbers Identifier.numbers_parts, List.nil_append]
  exact refuses_keptCall refused

theorem refuses_regular {name : Identifier} {nodes : List Grammar.Expr} {asterisk : Option Span}
    (refused : (Node.exprs nodes).Refused source) :
    (Node.regular ⟨span, name, nodes, asterisk⟩).Refused source := by
  rw [Node.Refused, regularCall, RegularCall.parts, rejected_span, rejected_append, rejected_append,
    rejected_of_numbers Identifier.numbers_parts, rejected_ofSpan, List.nil_append, List.append_nil]
  exact refuses_keptCall refused

end

/-- A simple expression that is a call is annotated like the call. -/
theorem refuses_call {node : FunctionCall}
    (refuses : Refuses source (rejected source node.parts) (functionCall node)) :
    (Node.simpleExpr (.call node)).Refused source := by
  rw [Node.Refused, simpleExpr, SimpleExpr.parts]
  apply refuses.before
  intro _
  exact succeeds_pure

theorem refuses_aggregationCall {node : AggregationCall}
    (refused : (Node.aggregation node).Refused source) :
    (Node.simpleExpr (.call ⟨span, some node, none, none⟩)).Refused source := by
  apply refuses_call
  rw [functionCall, FunctionCall.parts, AggregationCall.partsIn, SpecialCall.partsIn,
    RegularCall.partsIn, List.append_nil, List.append_nil, rejected_span]
  exact refused

theorem refuses_specialCall {node : SpecialCall} (refused : (Node.special node).Refused source) :
    (Node.simpleExpr (.call ⟨span, none, some node, none⟩)).Refused source := by
  apply refuses_call
  rw [functionCall, FunctionCall.parts, AggregationCall.partsIn, SpecialCall.partsIn,
    RegularCall.partsIn, List.append_nil, List.nil_append, rejected_span]
  exact refused

theorem refuses_regularCall {node : RegularCall} (refused : (Node.regular node).Refused source) :
    (Node.simpleExpr (.call ⟨span, none, none, some node⟩)).Refused source := by
  apply refuses_call
  rw [functionCall, FunctionCall.parts, AggregationCall.partsIn, SpecialCall.partsIn,
    RegularCall.partsIn, List.append_nil, List.nil_append, rejected_span]
  exact refused

/-! ### Order items and clauses -/

theorem refuses_orderColumn {name : Grammar.QualifiedName} :
    (Node.orderTarget (some name) none none).Refused source := by
  intro span ascending descending
  simp only [orderItem, OrderItem.parts, QualifiedName.partsIn, Expr.partsIn, rejected_item,
    rejected_span, rejected_append, rejected_ofSpan, Option.toList_none, List.filter_nil,
    rejected_of_numbers QualifiedName.numbers_parts, List.append_nil]
  exact (succeeds_column name).after fun _ => succeeds_pure

theorem refuses_orderNumber {number : Span} :
    (Node.orderTarget none (some number) none).Refused source := by
  intro span ascending descending
  simp only [orderItem, OrderItem.parts, QualifiedName.partsIn, Expr.partsIn, rejected_item,
    rejected_span, rejected_append, rejected_ofSpan, Option.toList_some, rejected_nil,
    List.append_nil]
  exact (refuses_position number).before fun _ => succeeds_pure

theorem refuses_orderExpr {node : Grammar.Expr} (refused : (Node.expr node).Refused source) :
    (Node.orderTarget none none (some node)).Refused source := by
  intro span ascending descending
  simp only [orderItem, OrderItem.parts, QualifiedName.partsIn, Expr.partsIn, rejected_item,
    rejected_span, rejected_append, rejected_ofSpan, Option.toList_none, List.filter_nil,
    List.nil_append, List.append_nil]
  exact refused.before fun _ => (succeeds_textAt node.span).after fun _ => succeeds_pure

theorem refuses_noOrderItem : (Node.orderItems []).Refused source := by
  rw [Node.Refused, orderItems, OrderItem.partsAmong]
  exact succeeds_pure

theorem refuses_orderItems {node : Grammar.OrderItem} {rest : List Grammar.OrderItem}
    (first : (Node.orderItem node).Refused source)
    (others : (Node.orderItems rest).Refused source) :
    (Node.orderItems (node :: rest)).Refused source := by
  rw [Node.Refused, orderItems, OrderItem.partsAmong, rejected_append]
  apply first.bind
  intro _
  apply others.before
  intro _
  exact succeeds_pure

section
variable {word : Keyword}

theorem refuses_noOrdering : (Node.ordering word none).Refused source := by
  rw [Node.Refused, orderClause?, OrderClause.partsIn]
  exact succeeds_pure

theorem refuses_ordering {items : List Grammar.OrderItem}
    (refused : (Node.orderItems items).Refused source) :
    (Node.ordering word (some ⟨span, items⟩)).Refused source := by
  rw [Node.Refused, orderClause?, orderClause, OrderClause.partsIn, rejected_span]
  apply Refuses.before
  · exact refused.before fun _ => succeeds_pure
  · intro _
    exact succeeds_pure

theorem refuses_noCondition : (Node.condition word none).Refused source := by
  rw [Node.Refused, conditionClause?, ConditionClause.partsIn]
  exact succeeds_pure

theorem refuses_condition {node : Grammar.Expr} (refused : (Node.expr node).Refused source) :
    (Node.condition word (some ⟨span, node⟩)).Refused source := by
  rw [Node.Refused, conditionClause?, ConditionClause.partsIn, rejected_span]
  apply refused.before
  intro _
  exact succeeds_pure

end

/-! ### The select list -/

theorem refuses_shorthand : (Node.selectItem (.shorthand span)).Refused source := by
  rw [Node.Refused, selectItem, SelectItem.parts, rejected_span, rejected_nil]
  exact succeeds_pure

theorem refuses_qualifiedShorthand {owner : Grammar.Label} :
    (Node.selectItem (.qualifiedShorthand span owner)).Refused source := by
  rw [Node.Refused, selectItem, SelectItem.parts, rejected_span,
    rejected_of_numbers Label.numbers_parts]
  exact (succeeds_placedName owner).after fun _ => succeeds_pure

theorem refuses_exprItem {node : Grammar.Expr} {itemLabel : Option Grammar.Label}
    (refused : (Node.expr node).Refused source) :
    (Node.selectItem (.expr span node itemLabel)).Refused source := by
  rw [Node.Refused, selectItem, SelectItem.parts, rejected_span, rejected_append,
    rejected_of_numbers Label.numbers_partsIn, List.append_nil]
  apply refused.before
  intro _
  exact (succeeds_placedName? itemLabel).after fun _ => succeeds_pure

theorem refuses_noSelectItem : (Node.selectItems []).Refused source := by
  rw [Node.Refused, selectItems, SelectItem.partsAmong]
  exact succeeds_pure

theorem refuses_selectItems {node : Grammar.SelectItem} {rest : List Grammar.SelectItem}
    (first : (Node.selectItem node).Refused source)
    (others : (Node.selectItems rest).Refused source) :
    (Node.selectItems (node :: rest)).Refused source := by
  rw [Node.Refused, selectItems, SelectItem.partsAmong, rejected_append]
  apply first.bind
  intro _
  apply others.before
  intro _
  exact succeeds_pure

/-! ### SELECT -/

theorem refuses_select {distinct : Option Span} {listSpan : Span} {items : List Grammar.SelectItem}
    {tables : Option NameList} {condition filter : Option ConditionClause}
    {grouping ordering : Option OrderClause} (listed : (Node.selectItems items).Refused source)
    (tested : (Node.condition .WHERE condition).Refused source)
    (grouped : (Node.ordering .GROUP grouping).Refused source)
    (filtered : (Node.condition .HAVING filter).Refused source)
    (ordered : (Node.ordering .ORDER ordering).Refused source) :
    (Node.select ⟨span, distinct, ⟨listSpan, items⟩, tables, condition, grouping, filter,
      ordering⟩).Refused source := by
  rw [Node.Refused, select, Select.parts]
  simp only [rejected_span, rejected_append, rejected_ofSpan,
    rejected_of_numbers NameList.numbers_partsIn, List.nil_append, List.append_assoc]
  apply listed.bind
  intro _
  apply (succeeds_tables? tables).after
  intro _
  apply tested.bind
  intro _
  apply grouped.bind
  intro _
  apply filtered.bind
  intro _
  apply ordered.before
  intro _
  exact fun progress => ⟨_, progress, rfl⟩

theorem refuses_subquery {node : Grammar.Select} {leftParen rightParen : Span}
    (refused : (Node.select node).Refused source) :
    (Node.subquery ⟨span, leftParen, node, rightParen⟩).Refused source := by
  rw [Node.Refused, subquery, Subquery.parts, rejected_span, rejected_span, rejected_select,
    rejected_append, rejected_span, rejected_nil, List.append_nil]
  exact (succeeds_report _).after fun _ => refused

end Annotate

open Annotate in
/-- By induction on the derivation, with one case for each rule of the grammar. -/
theorem Grammar.Derives.refused {node : Node} {tokens : List Token}
    (derived : DerivesWidely node tokens) (laid : Laid source tokens) : node.Refused source := by
  induction derived with
  -- `expr`
  | logical _ connective _ first second =>
      apply refuses_logical (first laid.left) _ (second laid.right.tail)
      exact connective_isSome (laid.right.stands _ List.mem_cons_self) connective
  | xor _ _ _ first second => exact refuses_xor (first laid.left) (second laid.right.tail)
  | negation _ _ inner => exact refuses_negation (inner laid.tail)
  | paren _ _ _ inner => exact refuses_paren (inner laid.left.tail)
  | primary _ inner => exact refuses_primary (inner laid)
  -- `booleanPrimary`
  | isTest _ _ _ _ inner => exact refuses_isTest (inner laid.left.left)
  | comparison _ _ _ first second =>
      exact refuses_comparison (first laid.left) (second laid.right.tail)
  | quantified _ _ _ _ first second =>
      exact refuses_quantified (first laid.left) (second laid.right.tail.tail)
  | predicate _ inner => exact refuses_predicate (inner laid)
  -- `predicate`
  | inSubquery _ _ _ _ first second =>
      exact refuses_inSubquery (first laid.left.left) (second laid.right.tail)
  | inList _ _ _ _ _ _ first second =>
      exact refuses_inList (first laid.left.left.left) (second laid.left.right.tail.tail)
  | between _ _ _ _ _ _ first second third =>
      exact refuses_between (first laid.left.left.left) (second laid.left.right.tail)
        (third laid.right.tail)
  | like _ _ _ _ _ first second third =>
      exact refuses_like (first laid.left.left.left) (second laid.left.right.tail)
        (third laid.right)
  | bitExpr _ inner => exact refuses_bitExpr (inner laid)
  | noEscape => exact refuses_noSimpleExpr
  | escape _ _ inner => exact refuses_someSimpleExpr (inner laid.tail)
  -- `bitExpr`
  | binary _ _ _ first second => exact refuses_binary (first laid.left) (second laid.right.tail)
  | simple _ inner => exact refuses_simple (inner laid)
  -- `simpleExpr`
  | existence _ _ inner => exact refuses_subqueryLeaf (inner laid.tail)
  | bareSubquery _ inner => exact refuses_subqueryLeaf (inner laid)
  | marker _ => exact refuses_marker
  | literal derived => exact refuses_literal derived
  | aggregationCall _ inner => exact refuses_aggregationCall (inner laid)
  | specialCall _ inner => exact refuses_specialCall (inner laid)
  | regularCall _ inner => exact refuses_regularCall (inner laid)
  | column _ => exact refuses_column
  | unary _ _ inner => exact refuses_unary (inner laid.tail)
  | row _ _ _ inner => exact refuses_row (inner laid.left.tail)
  | caseOf _ _ _ _ _ _ first second third =>
      exact refuses_caseOf (first laid.left.left.left.tail) (second laid.left.left.right)
        (third laid.left.right)
  | noSimpleExpr => exact refuses_noSimpleExpr
  | someSimpleExpr _ inner => exact refuses_someSimpleExpr (inner laid)
  | noBranch => exact refuses_noBranch
  | branch _ _ _ _ _ first second rest =>
      exact refuses_branch (first laid.left.left.tail) (second laid.left.right.tail)
        (rest laid.right)
  -- lists and optional parts
  | singleExpr _ inner => exact refuses_singleExpr (inner laid)
  | furtherExpr _ _ _ first rest => exact refuses_cons (first laid.left) (rest laid.right.tail)
  | noExpr | unled | unseparated => exact refusesOptional_none
  | someExpr _ inner => exact refusesOptional_some (inner laid)
  | led _ _ inner | separated _ _ inner => exact refusesOptional_some (inner laid.tail)
  -- `functionCall`
  | lastArgument _ inner => exact refuses_argument (inner laid) refuses_noArguments
  | furtherArgument _ _ _ first rest =>
      exact refuses_argument (first laid.left) (refuses_comma (rest laid.right.tail))
  | noArguments => exact refuses_noArguments
  | allArguments _ => exact refuses_asterisk refuses_noArguments
  | someArguments _ inner => exact inner laid
  | noRegularArguments | allRegularArguments _ => exact refuses_noExprs
  | someRegularArguments _ inner => exact inner laid
  | aggregation _ _ _ _ _ inner => exact refuses_aggregation (inner laid.left.right)
  | cast _ _ _ _ _ _ inner => exact refuses_cast (inner laid.left.left.tail.tail)
  | substring _ _ _ _ _ _ _ first second third =>
      have leading := refuses_exprs (refuses_singleExpr (first laid.left.left.left.tail.tail))
        (second laid.left.left.right).among
      exact refuses_substring (refuses_exprs leading (third laid.left.right).among)
  | extract _ _ _ _ _ _ inner => exact refuses_extract (inner laid.left.tail.tail.tail.tail)
  | trim _ _ _ _ _ _ first second =>
      apply refuses_trim
      exact refuses_exprs (first laid.left.left.right).among (second laid.left.right).among
  | regular _ _ _ _ inner => exact refuses_regular (inner laid.left.tail.tail)
  -- `orderByItem` and the clauses
  | orderColumn _ => exact refuses_orderColumn
  | orderNumber _ _ => exact refuses_orderNumber
  | orderExpr _ inner => exact refuses_orderExpr (inner laid)
  | orderItem _ _ target => exact target laid.left _ _ _
  | lastOrderItem _ inner => exact refuses_orderItems (inner laid) refuses_noOrderItem
  | furtherOrderItem _ _ _ first rest =>
      exact refuses_orderItems (first laid.left) (rest laid.right.tail)
  | noOrdering => exact refuses_noOrdering
  | ordering _ _ _ inner => exact refuses_ordering (inner laid.tail.tail)
  | noCondition => exact refuses_noCondition
  | condition _ _ inner => exact refuses_condition (inner laid.tail)
  -- `select`
  | shorthand _ => exact refuses_shorthand
  | qualifiedShorthand _ _ _ => exact refuses_qualifiedShorthand
  | exprItem _ _ inner => exact refuses_exprItem (inner laid.left)
  | lastSelectItem _ inner => exact refuses_selectItems (inner laid) refuses_noSelectItem
  | furtherSelectItem _ _ _ first rest =>
      exact refuses_selectItems (first laid.left) (rest laid.right.tail)
  | select _ _ _ _ _ _ _ _ items condition grouping having ordering =>
      exact refuses_select (items laid.left.left.left.left.left.right)
        (condition laid.left.left.left.right) (grouping laid.left.left.right)
        (having laid.left.right) (ordering laid.right)
  | subquery _ _ _ inner => exact refuses_subquery (inner laid.left.tail)

end AnnotatedSql
