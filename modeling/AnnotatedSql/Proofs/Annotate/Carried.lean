/-
This file carries the annotation of every node of a tree into another source, by induction over the
tree.
-/

import AnnotatedSql.Proofs.Annotate.Transport

namespace AnnotatedSql.Annotate

variable {change : Change} {whole part : Text}

/-- A leaf that is kept as text. -/
theorem follows_verbatimLeaf {span : Span} (shows : change.Shows whole part span) :
    Follows change whole part (Leaf.carry change)
      (return .segment (← verbatimSegment (span.relocate change.move)))
      (return .segment (← verbatimSegment span)) :=
  (follows_verbatimSegment shows).bind fun _ _ => follows_pure rfl

mutual

theorem follows_expr {node : Grammar.Expr} (shown : AllShown change whole part node.parts) :
    Follows change whole part (Segment.carry change) (expr (node.relocate change.move))
      (expr node) := by
  cases node with
  | primary inner =>
      rw [Grammar.Expr.parts] at shown
      simp only [Grammar.Expr.relocate, expr]
      exact follows_booleanPrimary shown
  | logical span left operator right =>
      simp only [Grammar.Expr.parts, allShown_span, allShown_append] at shown
      simp only [Grammar.Expr.relocate, expr]
      refine (follows_expr shown.2.1).bind fun leftSegment _ => ?_
      refine (follows_expr shown.2.2.2).bind fun rightSegment _ => ?_
      refine (follows_textAt shown.2.2.1).bind fun text _ => ?_
      rw [change.recasing.connective_text]
      split
      · exact follows_pure (Segment.join_carry change _ _ _ _)
      · exact follows_throw (.structuralViolation .expr span)
  | xor span left right =>
      simp only [Grammar.Expr.parts, allShown_span, allShown_append] at shown
      simp only [Grammar.Expr.relocate, expr]
      refine (follows_expr shown.2.1).bind fun leftSegment _ => ?_
      refine (follows_expr shown.2.2).bind fun rightSegment _ => ?_
      exact (follows_report _ _).bind fun _ _ => follows_pure rfl
  | not span operator operand =>
      simp only [Grammar.Expr.parts, allShown_span] at shown
      simp only [Grammar.Expr.relocate, expr]
      exact follows_expr shown.2.2
  | paren span inner =>
      simp only [Grammar.Expr.parts, allShown_span] at shown
      simp only [Grammar.Expr.relocate, expr]
      exact follows_expr shown.2

theorem follows_booleanPrimary {node : Grammar.BooleanPrimary}
    (shown : AllShown change whole part node.parts) :
    Follows change whole part (Segment.carry change)
      (booleanPrimary (node.relocate change.move)) (booleanPrimary node) := by
  cases node with
  | predicate inner =>
      rw [Grammar.BooleanPrimary.parts] at shown
      simp only [Grammar.BooleanPrimary.relocate, booleanPrimary]
      exact follows_predicate shown
  | isTest span operand negation value =>
      simp only [Grammar.BooleanPrimary.parts, allShown_span, allShown_append] at shown
      simp only [Grammar.BooleanPrimary.relocate, booleanPrimary]
      refine (follows_booleanPrimary shown.2.1.1).bind fun _ _ => ?_
      exact (follows_report _ _).bind fun _ _ => follows_verbatimSegment shown.1
  | comparison span left operator right =>
      simp only [Grammar.BooleanPrimary.parts, allShown_span, allShown_append] at shown
      simp only [Grammar.BooleanPrimary.relocate, booleanPrimary]
      refine (follows_booleanPrimary shown.2.1).bind fun leftSegment _ => ?_
      refine (follows_predicate shown.2.2.2).bind fun rightSegment run => ?_
      obtain ⟨before, after, run⟩ := run
      have drawn := predicate_drawn right before rightSegment after run
      exact follows_comparison shown.2.2.1 (shown.2.2.2 _ (drawn.span _ List.mem_cons_self))
  | quantified span left operator quantifier query =>
      simp only [Grammar.BooleanPrimary.parts, allShown_span, allShown_append] at shown
      simp only [Grammar.BooleanPrimary.relocate, booleanPrimary]
      refine (follows_booleanPrimary shown.2.1).bind fun _ _ => ?_
      refine (follows_subquery shown.2.2.2.2).bind fun _ _ => follows_pure ?_
      rw [Segment.carry, Expression.carry]

theorem follows_predicate {node : Grammar.Predicate}
    (shown : AllShown change whole part node.parts) :
    Follows change whole part (Segment.carry change) (predicate (node.relocate change.move))
      (predicate node) := by
  cases node with
  | bitExpr operand =>
      rw [Grammar.Predicate.parts] at shown
      simp only [Grammar.Predicate.relocate, predicate]
      exact follows_bitExpr shown
  | inSubquery span operand negation query =>
      simp only [Grammar.Predicate.parts, allShown_span, allShown_append] at shown
      simp only [Grammar.Predicate.relocate, predicate]
      refine (follows_bitExpr shown.2.1.1).bind fun operandSegment _ => ?_
      refine (follows_subquery shown.2.2).bind fun statement _ => follows_test shown.1 ?_
      obtain ⟨place, leftParen, select, rightParen⟩ := query
      simp only [Grammar.Subquery.relocate, Comparand.carry, Expression.carryAmong,
        Expression.carry]
  | inList span operand negation leftParen items rightParen =>
      simp only [Grammar.Predicate.parts, allShown_span, allShown_append] at shown
      simp only [Grammar.Predicate.relocate, predicate]
      refine (follows_bitExpr shown.2.1.1.1).bind fun operandSegment _ => ?_
      refine (follows_exprs shown.2.1.2.2).bind fun segments run => follows_test shown.1 ?_
      obtain ⟨before, after, run⟩ := run
      have drawn := exprs_drawn items before segments after run
      rw [Comparand.carry, Expression.carryAmong_eq, List.map_map, List.map_map]
      refine congrArg _ (List.map_congr_left fun segment member => ?_)
      exact Segment.toExpression_carry change
        (shown.2.1.2.2 _ (drawn.span _ (List.mem_map_of_mem member)))
  | between span operand negation lower upper =>
      simp only [Grammar.Predicate.parts, allShown_span, allShown_append] at shown
      simp only [Grammar.Predicate.relocate, predicate]
      refine (follows_bitExpr shown.2.1.1.1).bind fun operandSegment _ => ?_
      refine (follows_bitExpr shown.2.1.2).bind fun lowerSegment lowerRun => ?_
      refine (follows_predicate shown.2.2).bind fun upperSegment upperRun =>
        follows_test shown.1 ?_
      obtain ⟨before, middle, lowerRun⟩ := lowerRun
      obtain ⟨next, after, upperRun⟩ := upperRun
      have lowerDrawn := bitExpr_drawn lower before lowerSegment middle lowerRun
      have upperDrawn := predicate_drawn upper next upperSegment after upperRun
      rw [Comparand.carry,
        Segment.toExpression_carry change (shown.2.1.2 _ (lowerDrawn.span _ List.mem_cons_self)),
        Segment.toExpression_carry change (shown.2.2 _ (upperDrawn.span _ List.mem_cons_self))]
  | like span operand negation pattern escape =>
      simp only [Grammar.Predicate.parts, allShown_span, allShown_append] at shown
      simp only [Grammar.Predicate.relocate, predicate]
      refine (follows_bitExpr shown.2.1.1.1).bind fun _ _ => ?_
      refine (follows_simpleExpr shown.2.1.2).bind fun _ _ => ?_
      refine (follows_simpleExpr? shown.2.2).bind fun _ _ => ?_
      exact follows_keptPredicate shown.1

theorem follows_bitExpr {node : Grammar.BitExpr} (shown : AllShown change whole part node.parts) :
    Follows change whole part (Segment.carry change) (bitExpr (node.relocate change.move))
      (bitExpr node) := by
  cases node with
  | simple operand =>
      rw [Grammar.BitExpr.parts] at shown
      simp only [Grammar.BitExpr.relocate, bitExpr, Grammar.SimpleExpr.span_relocate]
      refine (follows_simpleExpr shown).bind fun leaf _ => ?_
      exact follows_leafSegment (shown _ operand.span_mem_parts)
  | binary span left operator right =>
      simp only [Grammar.BitExpr.parts, allShown_span, allShown_append] at shown
      simp only [Grammar.BitExpr.relocate, bitExpr]
      refine (follows_bitExpr shown.2.1).bind fun _ _ => ?_
      refine (follows_bitExpr shown.2.2.2).bind fun _ _ => ?_
      exact follows_verbatimSegment shown.1

theorem follows_simpleExpr {node : Grammar.SimpleExpr}
    (shown : AllShown change whole part node.parts) :
    Follows change whole part (Leaf.carry change) (simpleExpr (node.relocate change.move))
      (simpleExpr node) := by
  cases node with
  | subquery span word query =>
      simp only [Grammar.SimpleExpr.parts, allShown_span, allShown_append] at shown
      simp only [Grammar.SimpleExpr.relocate, simpleExpr]
      refine (follows_subquery shown.2.2).bind fun _ _ => follows_pure ?_
      rw [Leaf.carry, Segment.carry, Expression.carry]
  | marker span =>
      simp only [Grammar.SimpleExpr.relocate, simpleExpr]
      exact follows_marker.bind fun _ _ => follows_pure rfl
  | literal node =>
      rw [Grammar.SimpleExpr.parts] at shown
      simp only [Grammar.SimpleExpr.relocate, simpleExpr]
      exact (follows_literal shown).bind fun _ _ => follows_pure rfl
  | call node =>
      rw [Grammar.SimpleExpr.parts] at shown
      simp only [Grammar.SimpleExpr.relocate, simpleExpr]
      refine (follows_functionCall shown).bind fun _ _ => follows_pure ?_
      rw [Leaf.carry, Segment.carry, Expression.carry]
  | column node =>
      rw [Grammar.SimpleExpr.parts] at shown
      simp only [Grammar.SimpleExpr.relocate, simpleExpr]
      refine (follows_column shown).bind fun _ _ => follows_pure ?_
      rw [Leaf.carry, Segment.carry, Expression.carry]
  | unary span operator operand =>
      simp only [Grammar.SimpleExpr.parts, allShown_span] at shown
      simp only [Grammar.SimpleExpr.relocate, simpleExpr]
      exact (follows_simpleExpr shown.2.2).bind fun _ _ => follows_verbatimLeaf shown.1
  | row span items =>
      simp only [Grammar.SimpleExpr.parts, allShown_span] at shown
      simp only [Grammar.SimpleExpr.relocate, simpleExpr]
      exact (follows_exprs shown.2).bind fun _ _ => follows_verbatimLeaf shown.1
  | caseOf span operand branches otherwise =>
      simp only [Grammar.SimpleExpr.parts, allShown_span, allShown_append] at shown
      simp only [Grammar.SimpleExpr.relocate, simpleExpr]
      refine (follows_simpleExpr? shown.2.1.1).bind fun _ _ => ?_
      refine (follows_caseBranches shown.2.1.2).bind fun _ _ => ?_
      exact (follows_expr? shown.2.2).bind fun _ _ => follows_verbatimLeaf shown.1

theorem follows_simpleExpr? {node : Option Grammar.SimpleExpr}
    (shown : AllShown change whole part (Grammar.SimpleExpr.partsIn node)) :
    Follows change whole part id (simpleExpr? (Grammar.SimpleExpr.relocateIn change.move node))
      (simpleExpr? node) := by
  cases node with
  | none =>
      simp only [Grammar.SimpleExpr.relocateIn, simpleExpr?]
      exact follows_pure rfl
  | some node =>
      rw [Grammar.SimpleExpr.partsIn] at shown
      simp only [Grammar.SimpleExpr.relocateIn, simpleExpr?]
      exact (follows_simpleExpr shown).bind fun _ _ => follows_pure rfl

theorem follows_expr? {node : Option Grammar.Expr}
    (shown : AllShown change whole part (Grammar.Expr.partsIn node)) :
    Follows change whole part id (expr? (Grammar.Expr.relocateIn change.move node))
      (expr? node) := by
  cases node with
  | none =>
      simp only [Grammar.Expr.relocateIn, expr?]
      exact follows_pure rfl
  | some node =>
      rw [Grammar.Expr.partsIn] at shown
      simp only [Grammar.Expr.relocateIn, expr?]
      exact (follows_expr shown).bind fun _ _ => follows_pure rfl

theorem follows_exprs {nodes : List Grammar.Expr}
    (shown : AllShown change whole part (Grammar.Expr.partsAmong nodes)) :
    Follows change whole part (List.map (Segment.carry change))
      (exprs (Grammar.Expr.relocateAmong change.move nodes)) (exprs nodes) := by
  cases nodes with
  | nil =>
      simp only [Grammar.Expr.relocateAmong, exprs]
      exact follows_pure rfl
  | cons first rest =>
      simp only [Grammar.Expr.partsAmong, allShown_append] at shown
      simp only [Grammar.Expr.relocateAmong, exprs]
      refine (follows_expr shown.1).bind fun _ _ => ?_
      exact (follows_exprs shown.2).bind fun _ _ => follows_pure rfl

theorem follows_caseBranches {nodes : List Grammar.CaseBranch}
    (shown : AllShown change whole part (Grammar.CaseBranch.partsAmong nodes)) :
    Follows change whole part id
      (caseBranches (Grammar.CaseBranch.relocateAmong change.move nodes)) (caseBranches nodes) := by
  cases nodes with
  | nil =>
      simp only [Grammar.CaseBranch.relocateAmong, caseBranches]
      exact follows_pure rfl
  | cons first rest =>
      obtain ⟨span, condition, result⟩ := first
      simp only [Grammar.CaseBranch.partsAmong, allShown_span, allShown_append] at shown
      simp only [Grammar.CaseBranch.relocateAmong, Grammar.CaseBranch.relocate, caseBranches]
      refine (follows_expr shown.2.1.1).bind fun _ _ => ?_
      exact (follows_expr shown.2.1.2).bind fun _ _ => follows_caseBranches shown.2.2

theorem follows_functionCall {node : Grammar.FunctionCall}
    (shown : AllShown change whole part node.parts) :
    Follows change whole part (Call.carry change) (functionCall (node.relocate change.move))
      (functionCall node) := by
  obtain ⟨span, aggregation, special, regular⟩ := node
  simp only [Grammar.FunctionCall.parts, allShown_span, allShown_append] at shown
  simp only [Grammar.FunctionCall.relocate]
  cases aggregation with
  | some call =>
      rw [Grammar.AggregationCall.partsIn] at shown
      simp only [Grammar.AggregationCall.relocateIn, functionCall]
      exact follows_aggregationCall shown.2.1.1
  | none =>
  cases special with
  | some call =>
      rw [Grammar.SpecialCall.partsIn] at shown
      simp only [Grammar.AggregationCall.relocateIn, Grammar.SpecialCall.relocateIn, functionCall]
      exact follows_specialCall shown.2.1.2
  | none =>
  cases regular with
  | some call =>
      rw [Grammar.RegularCall.partsIn] at shown
      simp only [Grammar.AggregationCall.relocateIn, Grammar.SpecialCall.relocateIn,
        Grammar.RegularCall.relocateIn, functionCall]
      exact follows_regularCall shown.2.2
  | none =>
      simp only [Grammar.AggregationCall.relocateIn, Grammar.SpecialCall.relocateIn,
        Grammar.RegularCall.relocateIn, functionCall]
      exact follows_throw (.structuralViolation .functionCall span)

theorem follows_aggregationCall {node : Grammar.AggregationCall}
    (shown : AllShown change whole part node.parts) :
    Follows change whole part (Call.carry change)
      (aggregationCall (node.relocate change.move)) (aggregationCall node) := by
  have use := follows_aggregateUse shown
  obtain ⟨span, name, leftParen, distinct, arguments, rightParen⟩ := node
  simp only [Grammar.AggregationCall.parts, allShown_span, allShown_append] at shown
  simp only [Grammar.AggregationCall.relocate, aggregationCall] at use ⊢
  exact (follows_aggregationArguments shown.2.2.2.1.2).bind fun _ _ => use

theorem follows_aggregationArguments {nodes : List Grammar.AggregationArgument}
    (shown : AllShown change whole part (Grammar.AggregationArgument.partsAmong nodes)) :
    Follows change whole part id
      (aggregationArguments (Grammar.AggregationArgument.relocateAmong change.move nodes))
      (aggregationArguments nodes) := by
  cases nodes with
  | nil =>
      simp only [Grammar.AggregationArgument.relocateAmong, aggregationArguments]
      exact follows_pure rfl
  | cons first rest =>
      cases first with
      | expr node =>
          simp only [Grammar.AggregationArgument.partsAmong, allShown_append] at shown
          simp only [Grammar.AggregationArgument.relocateAmong,
            Grammar.AggregationArgument.relocate, aggregationArguments]
          exact (follows_expr shown.1).bind fun _ _ => follows_aggregationArguments shown.2
      | asterisk span | comma span =>
          simp only [Grammar.AggregationArgument.partsAmong, allShown_span] at shown
          simp only [Grammar.AggregationArgument.relocateAmong,
            Grammar.AggregationArgument.relocate, aggregationArguments]
          exact follows_aggregationArguments shown.2

theorem follows_specialCall {node : Grammar.SpecialCall}
    (shown : AllShown change whole part node.parts) :
    Follows change whole part (Call.carry change) (specialCall (node.relocate change.move))
      (specialCall node) := by
  cases node with
  | cast call =>
      rw [Grammar.SpecialCall.parts] at shown
      simp only [Grammar.SpecialCall.relocate, specialCall]
      exact follows_castCall shown
  | substring span arguments | trim span arguments =>
      simp only [Grammar.SpecialCall.parts, allShown_span] at shown
      simp only [Grammar.SpecialCall.relocate, specialCall]
      exact (follows_exprs shown.2).bind fun _ _ => follows_verbatimCall shown.1
  | extract span field source =>
      simp only [Grammar.SpecialCall.parts, allShown_span, allShown_append] at shown
      simp only [Grammar.SpecialCall.relocate, specialCall]
      exact (follows_expr shown.2.2).bind fun _ _ => follows_verbatimCall shown.1

theorem follows_castCall {node : Grammar.CastCall}
    (shown : AllShown change whole part node.parts) :
    Follows change whole part (Call.carry change) (castCall (node.relocate change.move))
      (castCall node) := by
  obtain ⟨span, operand, target⟩ := node
  simp only [Grammar.CastCall.parts, Grammar.DataType.parts, allShown_span,
    allShown_append] at shown
  simp only [Grammar.CastCall.relocate, castCall]
  refine (follows_expr shown.2.1).bind fun _ _ => ?_
  refine (follows_textAt shown.2.2.2.1).bind fun _ _ => ?_
  exact (follows_report _ _).bind fun _ _ => follows_verbatimCall shown.1

theorem follows_regularCall {node : Grammar.RegularCall}
    (shown : AllShown change whole part node.parts) :
    Follows change whole part (Call.carry change) (regularCall (node.relocate change.move))
      (regularCall node) := by
  obtain ⟨span, name, arguments, asterisk⟩ := node
  simp only [Grammar.RegularCall.parts, allShown_span, allShown_append] at shown
  simp only [Grammar.RegularCall.relocate, regularCall]
  exact (follows_exprs shown.2.1.2).bind fun _ _ => follows_verbatimCall shown.1

theorem follows_orderItem {node : Grammar.OrderItem}
    (shown : AllShown change whole part node.parts) :
    Follows change whole part (OrderItem.carry change) (orderItem (node.relocate change.move))
      (orderItem node) := by
  obtain ⟨span, column, number, inner, ascending, descending⟩ := node
  have direction : directionOf (descending.map (Span.relocate change.move)) =
      directionOf descending := by
    cases descending <;> rfl
  simp only [Grammar.OrderItem.parts, allShown_item, allShown_span, allShown_append] at shown
  simp only [Grammar.OrderItem.relocate]
  cases column with
  | some name =>
      rw [Grammar.QualifiedName.partsIn] at shown
      simp only [Option.map_some, orderItem, direction]
      exact (follows_column shown.2.1.1.1.1).bind fun _ _ => follows_pure rfl
  | none =>
  cases number with
  | some place =>
      rw [Grammar.Part.ofSpan_some, allShown_span] at shown
      simp only [Option.map_some, Option.map_none, orderItem, direction]
      exact (follows_position shown.2.1.1.1.2.1).bind fun _ _ => follows_pure rfl
  | none =>
  cases inner with
  | some node =>
      rw [Grammar.Expr.partsIn] at shown
      simp only [Option.map_none, Grammar.Expr.relocateIn, orderItem, direction,
        Grammar.Expr.span_relocate]
      refine (follows_expr shown.2.1.1.2).bind fun _ _ => ?_
      refine (follows_textAt (shown.2.1.1.2 _ node.span_mem_parts)).bind fun _ _ => ?_
      exact follows_pure rfl
  | none =>
      simp only [Option.map_none, Grammar.Expr.relocateIn, orderItem]
      exact follows_throw (.structuralViolation .orderByItem span)

theorem follows_orderItems {nodes : List Grammar.OrderItem}
    (shown : AllShown change whole part (Grammar.OrderItem.partsAmong nodes)) :
    Follows change whole part (List.map (OrderItem.carry change))
      (orderItems (Grammar.OrderItem.relocateAmong change.move nodes)) (orderItems nodes) := by
  cases nodes with
  | nil =>
      simp only [Grammar.OrderItem.relocateAmong, orderItems]
      exact follows_pure rfl
  | cons first rest =>
      simp only [Grammar.OrderItem.partsAmong, allShown_append] at shown
      simp only [Grammar.OrderItem.relocateAmong, orderItems]
      refine (follows_orderItem shown.1).bind fun _ _ => ?_
      exact (follows_orderItems shown.2).bind fun _ _ => follows_pure rfl

theorem follows_orderClause? {clause : Option Grammar.OrderClause}
    (shown : AllShown change whole part (Grammar.OrderClause.partsIn clause)) :
    Follows change whole part (Option.map (OrderList.carry change))
      (orderClause? (Grammar.OrderClause.relocateIn change.move clause)) (orderClause? clause) := by
  cases clause with
  | none =>
      simp only [Grammar.OrderClause.relocateIn, orderClause?]
      exact follows_pure rfl
  | some clause =>
      obtain ⟨span, items⟩ := clause
      simp only [Grammar.OrderClause.partsIn, allShown_span] at shown
      simp only [Grammar.OrderClause.relocateIn, Grammar.OrderClause.relocate, orderClause?]
      have list : Follows change whole part (OrderList.carry change)
          (orderClause ⟨span.relocate change.move,
            Grammar.OrderItem.relocateAmong change.move items⟩) (orderClause ⟨span, items⟩) := by
        simp only [orderClause]
        exact (follows_orderItems shown.2).bind fun _ _ => follows_pure rfl
      exact list.bind fun _ _ => follows_pure rfl

theorem follows_conditionClause? {clause : Option Grammar.ConditionClause}
    (shown : AllShown change whole part (Grammar.ConditionClause.partsIn clause)) :
    Follows change whole part (Condition.carryIn change)
      (conditionClause? (Grammar.ConditionClause.relocateIn change.move clause))
      (conditionClause? clause) := by
  cases clause with
  | none =>
      simp only [Grammar.ConditionClause.relocateIn, conditionClause?]
      refine follows_pure ?_
      rw [Condition.carryIn]
  | some clause =>
      obtain ⟨span, node⟩ := clause
      simp only [Grammar.ConditionClause.partsIn, allShown_span] at shown
      simp only [Grammar.ConditionClause.relocateIn, Grammar.ConditionClause.relocate,
        conditionClause?]
      refine (follows_expr shown.2).bind fun _ _ => follows_pure ?_
      rw [Condition.carryIn]

theorem follows_selectItem {node : Grammar.SelectItem}
    (shown : AllShown change whole part node.parts) :
    Follows change whole part (SelectItem.carry change) (selectItem (node.relocate change.move))
      (selectItem node) := by
  cases node with
  | shorthand span =>
      simp only [Grammar.SelectItem.relocate, selectItem]
      refine follows_pure ?_
      rw [SelectItem.carry, Option.map_none]
  | qualifiedShorthand span owner =>
      simp only [Grammar.SelectItem.parts, allShown_span] at shown
      simp only [Grammar.SelectItem.relocate, selectItem]
      refine (follows_placedName shown.2).bind fun _ _ => follows_pure ?_
      rw [SelectItem.carry, Option.map_some]
  | expr span node itemLabel =>
      simp only [Grammar.SelectItem.parts, allShown_span, allShown_append] at shown
      simp only [Grammar.SelectItem.relocate, selectItem]
      refine (follows_expr shown.2.1).bind fun _ _ => ?_
      refine (follows_placedName? shown.2.2).bind fun _ _ => follows_pure ?_
      rw [SelectItem.carry]

theorem follows_selectItems {nodes : List Grammar.SelectItem}
    (shown : AllShown change whole part (Grammar.SelectItem.partsAmong nodes)) :
    Follows change whole part (SelectItem.carryAmong change)
      (selectItems (Grammar.SelectItem.relocateAmong change.move nodes)) (selectItems nodes) := by
  cases nodes with
  | nil =>
      simp only [Grammar.SelectItem.relocateAmong, selectItems]
      refine follows_pure ?_
      rw [SelectItem.carryAmong]
  | cons first rest =>
      simp only [Grammar.SelectItem.partsAmong, allShown_append] at shown
      simp only [Grammar.SelectItem.relocateAmong, selectItems]
      refine (follows_selectItem shown.1).bind fun _ _ => ?_
      refine (follows_selectItems shown.2).bind fun _ _ => follows_pure ?_
      rw [SelectItem.carryAmong]

theorem follows_select {node : Grammar.Select} (shown : AllShown change whole part node.parts) :
    Follows change whole part (Statement.carry change) (select (node.relocate change.move))
      (select node) := by
  obtain ⟨span, distinct, ⟨listSpan, items⟩, tableList, condition, grouping, having, ordering⟩ :=
    node
  simp only [Grammar.Select.parts, allShown_span, allShown_append] at shown
  obtain ⟨_, ⟨⟨⟨⟨⟨_, _, listed⟩, ofTables⟩, first⟩, groups⟩, second⟩, orders⟩ := shown
  simp only [Grammar.Select.relocate, Grammar.SelectList.relocate, select]
  refine (follows_selectItems listed).bind fun _ _ => ?_
  refine (follows_tables? ofTables).bind fun _ _ => ?_
  refine (follows_conditionClause? first).bind fun _ _ => ?_
  refine (follows_orderClause? groups).bind fun _ _ => ?_
  refine (follows_conditionClause? second).bind fun _ _ => ?_
  refine (follows_orderClause? orders).bind fun _ _ => ?_
  refine follows_get fun progress later markers => follows_pure ?_
  rw [Statement.carry, markers, Option.isSome_map]

theorem follows_subquery {node : Grammar.Subquery}
    (shown : AllShown change whole part node.parts) :
    Follows change whole part (Statement.carry change) (subquery (node.relocate change.move))
      (subquery node) := by
  obtain ⟨span, leftParen, child, rightParen⟩ := node
  simp only [Grammar.Subquery.parts, allShown_span, allShown_select, allShown_append] at shown
  simp only [Grammar.Subquery.relocate, subquery]
  exact (follows_report _ _).bind fun _ _ => follows_select shown.2.2.1

end

/-- A statement of its own comes out as its SELECT does when no marker was seen before. -/
theorem statement_outcome (node : Grammar.Select) (source : Text) (progress : Progress) :
    (statement node source progress).1 =
      (select node source ⟨0, progress.events ++ [.statementStarted node.span]⟩).1 := by
  have run : statement node source progress =
      (do
        let result ← select node
        report (.statementFinished result.markers)
        return result : Annotator Statement) source
          ⟨0, progress.events ++ [.statementStarted node.span]⟩ := rfl
  rw [run, Annotator.bind_run]
  rcases selected : select node source ⟨0, progress.events ++ [.statementStarted node.span]⟩ with
    ⟨error | result, after⟩
  · rw [selected]
  · rw [selected]
    rfl

end AnnotatedSql.Annotate
