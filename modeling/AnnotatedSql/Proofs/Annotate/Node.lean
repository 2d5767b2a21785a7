/-
This file goes through the nodes of the grammar and shows that the annotation of each numbers the
markers among its tokens.
-/

import AnnotatedSql.Proofs.Annotate.Numbering

namespace AnnotatedSql.Annotate

open Grammar

variable {source : Text} {offset : Nat} {span : Span} {operator word opening closing : Token}
  {tokens before middle after : List Token}

-- Every proof below opens one of the mutually recursive annotators. Their equations come together,
-- and setting them up here keeps the first proof of each from deriving all of them again.
attribute [local simp] expr booleanPrimary predicate bitExpr simpleExpr simpleExpr? expr? exprs
  caseBranches functionCall aggregationCall aggregationArguments specialCall castCall regularCall
  orderItem orderItems orderClause orderClause? conditionClause? selectItem selectItems select
  subquery

/-! ### Expressions -/

section
variable {left right : Grammar.Expr} {sign : Span}

theorem collects_logical (first : Collects source before (expr left) Segment.kept)
    (other : operator.kind ≠ .symbol .question)
    (second : Collects source after (expr right) Segment.kept) :
    Collects source (before ++ operator :: after) (expr (.logical span left sign right))
      Segment.kept := by
  intro offset
  rw [expr]
  apply (first offset).bind
  intro left keepsLeft
  apply Walks.cons other
  apply (second _).before
  intro right keepsRight
  apply (quiet_textAt sign _).after
  intro text _
  split
  · apply walks_pure
    rw [Segment.kept_join]
    exact keepsLeft.left.append (keepsRight.cons other).right
  · exact walks_throw

theorem collects_xor (first : Collects source before (expr left) Segment.kept)
    (other : operator.kind ≠ .symbol .question)
    (second : Collects source after (expr right) Segment.kept) :
    Collects source (before ++ operator :: after) (expr (.xor span left right)) Segment.kept := by
  intro offset
  rw [expr]
  apply (first offset).bind
  intro left keepsLeft
  apply Walks.cons other
  apply (second _).before
  intro right _
  apply (walks_report rfl).after
  intro _ _
  exact walks_pure keepsLeft.left

end

section
variable {inner : Grammar.Expr} {sign : Span}

theorem collects_negation (other : operator.kind ≠ .symbol .question)
    (collects : Collects source tokens (expr inner) Segment.kept) :
    Collects source (operator :: tokens) (expr (.not span sign inner)) Segment.kept := by
  rw [expr]
  exact collects.cons other

theorem collects_paren (collects : Collects source tokens (expr inner) Segment.kept) :
    Collects source tokens (expr (.paren span inner)) Segment.kept := by
  rw [expr]
  exact collects

end

theorem collects_primary {inner : Grammar.BooleanPrimary}
    (collects : Collects source tokens (booleanPrimary inner) Segment.kept) :
    Collects source tokens (expr (.primary inner)) Segment.kept := by
  rw [expr]
  exact collects

/-! ### Boolean primaries -/

theorem collects_isTest {operand : Grammar.BooleanPrimary} {negation : Option Span} {value : Span}
    (first : Collects source before (booleanPrimary operand) Segment.kept) (plain : Plain after) :
    Collects source (before ++ after) (booleanPrimary (.isTest span operand negation value))
      Segment.kept := by
  rw [booleanPrimary]
  apply Collects.behind plain
  apply first.passes.dropLast
  intro _
  apply (quiet_report rfl).before
  intro _
  exact collects_verbatimSegment span

theorem collects_comparison {left : Grammar.BooleanPrimary} {right : Grammar.Predicate}
    {sign : Span} (first : Collects source before (booleanPrimary left) Segment.kept)
    (other : operator.kind ≠ .symbol .question)
    (second : Collects source after (predicate right) Segment.kept) :
    Collects source (before ++ operator :: after)
      (booleanPrimary (.comparison span left sign right)) Segment.kept := by
  intro offset
  rw [booleanPrimary]
  apply (first offset).bind
  intro left keepsLeft
  apply Walks.cons other
  apply (second _).before
  intro right keepsRight
  apply (walks_comparison span sign left right).mono
  intro segment fewer
  exact (keepsLeft.left.append (keepsRight.cons other).right).fewer fewer

theorem collects_quantified {left : Grammar.BooleanPrimary} {query : Grammar.Subquery}
    {sign quantifier : Span} (first : Collects source before (booleanPrimary left) Segment.kept)
    (other : operator.kind ≠ .symbol .question) (otherWord : word.kind ≠ .symbol .question)
    (second : Collects source after (subquery query) Statement.kept) :
    Collects source (before ++ operator :: word :: after)
      (booleanPrimary (.quantified span left sign quantifier query)) Segment.kept := by
  rw [booleanPrimary]
  apply first.passes.drop
  intro _
  apply Collects.cons other
  apply Collects.cons otherWord
  intro offset
  apply (second offset).before
  intro statement keeps
  apply walks_pure
  rw [Segment.kept, Expression.kept]
  exact keeps

theorem collects_predicate {inner : Grammar.Predicate}
    (collects : Collects source tokens (predicate inner) Segment.kept) :
    Collects source tokens (booleanPrimary (.predicate inner)) Segment.kept := by
  rw [booleanPrimary]
  exact collects

/-! ### Predicates -/

section
variable {operand : Grammar.BitExpr} {negation : Option Span} {plainTokens : List Token}

theorem collects_inSubquery {query : Grammar.Subquery}
    (first : Collects source before (bitExpr operand) Segment.kept) (plain : Plain plainTokens)
    (other : word.kind ≠ .symbol .question)
    (second : Collects source after (subquery query) Statement.kept) :
    Collects source (before ++ plainTokens ++ word :: after)
      (predicate (.inSubquery span operand negation query)) Segment.kept := by
  intro offset
  rw [predicate, List.append_assoc]
  apply (first offset).bind
  intro tested _
  apply Walks.plain plain
  apply Walks.cons other
  apply (second _).before
  intro statement keeps
  apply walks_test
  intro _
  rw [Comparand.kept, Expression.keptAmong, Expression.kept, Expression.keptAmong, List.append_nil]
  exact ((keeps.cons other).plain plain).right

theorem collects_inList {items : List Grammar.Expr} {leftParen rightParen : Span}
    (first : Collects source before (bitExpr operand) Segment.kept) (plain : Plain plainTokens)
    (other : word.kind ≠ .symbol .question) (opens : opening.kind = .symbol .leftParen)
    (second : Collects source after (exprs items) Segment.keptAmong)
    (closes : closing.kind = .symbol .rightParen) :
    Collects source (before ++ plainTokens ++ word :: opening :: after ++ [closing])
      (predicate (.inList span operand negation leftParen items rightParen)) Segment.kept := by
  intro offset
  have inside := second.parenthesised opens closes
  rw [predicate, List.append_assoc, List.append_assoc]
  apply (first offset).bind
  intro tested _
  apply Walks.plain plain
  apply Walks.cons other
  apply (inside _).before
  intro candidates keeps
  apply walks_test
  intro source
  rw [Comparand.kept]
  apply Keeps.fewer _ (Segment.keptAmong_toExpression candidates source)
  exact ((keeps.cons other).plain plain).right

theorem collects_between {lower : Grammar.BitExpr} {upper : Grammar.Predicate}
    (first : Collects source before (bitExpr operand) Segment.kept) (plain : Plain plainTokens)
    (other : word.kind ≠ .symbol .question)
    (second : Collects source middle (bitExpr lower) Segment.kept)
    (otherOperator : operator.kind ≠ .symbol .question)
    (third : Collects source after (predicate upper) Segment.kept) :
    Collects source (before ++ plainTokens ++ word :: middle ++ operator :: after)
      (predicate (.between span operand negation lower upper)) Segment.kept := by
  intro offset
  rw [predicate, List.append_assoc, List.append_assoc]
  apply (first offset).bind
  intro tested _
  apply Walks.plain plain
  apply Walks.cons other
  apply (second _).bind
  intro lower keepsLower
  apply Walks.cons otherOperator
  apply (third _).before
  intro upper keepsUpper
  apply walks_test
  intro source
  rw [Comparand.kept]
  apply Keeps.right
  apply Keeps.plain plain
  apply Keeps.cons other
  apply Keeps.append
  · exact keepsLower.left.fewer (Segment.kept_toExpression lower source)
  · exact (keepsUpper.cons otherOperator).right.fewer (Segment.kept_toExpression upper source)

theorem collects_like {like : Grammar.SimpleExpr} {escape : Option Grammar.SimpleExpr}
    (first : Collects source before (bitExpr operand) Segment.kept) (plain : Plain plainTokens)
    (other : word.kind ≠ .symbol .question) (second : Passes source middle (simpleExpr like))
    (third : Passes source after (simpleExpr? escape)) :
    Collects source (before ++ plainTokens ++ word :: middle ++ after)
      (predicate (.like span operand negation like escape)) Segment.kept := by
  rw [predicate, List.append_assoc, List.append_assoc]
  apply first.passes.drop
  intro _
  apply Collects.plain plain
  apply Collects.cons other
  apply second.drop
  intro _
  apply third.dropLast
  intro _
  apply (quiet_report rfl).before
  intro _
  exact collects_verbatimSegment span

theorem collects_bitExpr (collects : Collects source tokens (bitExpr operand) Segment.kept) :
    Collects source tokens (predicate (.bitExpr operand)) Segment.kept := by
  rw [predicate]
  exact collects

end

/-! ### Bit expressions and simple expressions -/

theorem collects_binary {left right : Grammar.BitExpr} {sign : Span}
    (first : Collects source before (bitExpr left) Segment.kept)
    (other : operator.kind ≠ .symbol .question)
    (second : Collects source after (bitExpr right) Segment.kept) :
    Collects source (before ++ operator :: after) (bitExpr (.binary span left sign right))
      Segment.kept := by
  rw [bitExpr]
  apply first.passes.drop
  intro _
  apply Collects.cons other
  apply second.passes.dropLast
  intro _
  exact collects_verbatimSegment span

theorem collects_simple {operand : Grammar.SimpleExpr}
    (collects : Collects source tokens (simpleExpr operand) (Leaf.kept operand.span)) :
    Collects source tokens (bitExpr (.simple operand)) Segment.kept := by
  intro offset
  rw [bitExpr]
  apply (collects offset).before
  intro leaf keeps
  apply (walks_leafSegment operand.span leaf).mono
  intro segment fewer
  exact keeps.fewer fewer

theorem collects_subqueryLeaf {query : Grammar.Subquery} {word : Option Span}
    (collects : Collects source tokens (subquery query) Statement.kept) :
    Collects source tokens (simpleExpr (.subquery span word query)) (Leaf.kept span) := by
  intro offset
  rw [simpleExpr]
  apply (collects offset).before
  intro statement keeps
  apply walks_pure
  rw [Leaf.kept, Segment.kept, Expression.kept]
  exact keeps

theorem collects_marker (question : operator.kind = .symbol .question) :
    Collects source [operator] (simpleExpr (.marker operator.span)) (Leaf.kept operator.span) := by
  intro offset
  rw [simpleExpr]
  apply (walks_marker question).before
  intro index same
  subst same
  apply walks_pure
  intro one member
  rw [Leaf.kept, List.mem_singleton] at member
  subst member
  rw [Kept.Right, questions_question question]
  exact List.mem_cons_self

theorem collects_literal {node : Grammar.Literal} (plain : Plain tokens) :
    Collects source tokens (simpleExpr (.literal node)) (Leaf.kept node.span) := by
  rw [← List.append_nil tokens]
  apply Collects.plain plain
  intro offset
  rw [simpleExpr]
  apply (walks_literal node).after
  intro value other
  apply walks_pure
  cases value with
  | marker index => exact absurd rfl (other index)
  | _ => exact Keeps.nil

theorem collects_call {node : FunctionCall} (passes : Passes source tokens (functionCall node)) :
    Collects source tokens (simpleExpr (.call node)) (Leaf.kept node.span) := by
  rw [simpleExpr]
  apply passes.dropLast
  intro value
  apply collects_pure
  rw [Leaf.kept, Segment.kept, Expression.kept]

theorem collects_aggregationCall {node : AggregationCall}
    (passes : Passes source tokens (aggregationCall node)) :
    Collects source tokens (simpleExpr (.call ⟨span, some node, none, none⟩)) (Leaf.kept span) := by
  apply collects_call
  rw [functionCall]
  exact passes

theorem collects_specialCall {node : SpecialCall}
    (passes : Passes source tokens (specialCall node)) :
    Collects source tokens (simpleExpr (.call ⟨span, none, some node, none⟩)) (Leaf.kept span) := by
  apply collects_call
  rw [functionCall]
  exact passes

theorem collects_regularCall {node : RegularCall}
    (passes : Passes source tokens (regularCall node)) :
    Collects source tokens (simpleExpr (.call ⟨span, none, none, some node⟩)) (Leaf.kept span) := by
  apply collects_call
  rw [functionCall]
  exact passes

theorem collects_column {name : Grammar.QualifiedName} (plain : Plain tokens) :
    Collects source tokens (simpleExpr (.column name)) (Leaf.kept name.span) := by
  rw [← List.append_nil tokens]
  apply Collects.plain plain
  rw [simpleExpr]
  apply (quiet_column name).before
  intro column
  apply collects_pure
  rw [Leaf.kept, Segment.kept, Expression.kept]

/-- The last step of a simple expression that is kept as text. -/
theorem collects_verbatimLeaf (span place : Span) :
    Collects source [] (do return Leaf.segment (← verbatimSegment span)) (Leaf.kept place) := by
  intro offset
  apply (walks_verbatimSegment span).after
  intro segment none
  apply walks_pure
  rw [Leaf.kept, none]
  exact Keeps.nil

theorem collects_unary {operand : Grammar.SimpleExpr} {sign : Span}
    (other : operator.kind ≠ .symbol .question)
    (passes : Passes source tokens (simpleExpr operand)) :
    Collects source (operator :: tokens) (simpleExpr (.unary span sign operand))
      (Leaf.kept span) := by
  rw [simpleExpr]
  apply Collects.cons other
  apply passes.dropLast
  intro _
  exact collects_verbatimLeaf span span

theorem collects_row {items : List Grammar.Expr} (passes : Passes source tokens (exprs items)) :
    Collects source tokens (simpleExpr (.row span items)) (Leaf.kept span) := by
  rw [simpleExpr]
  apply passes.dropLast
  intro _
  exact collects_verbatimLeaf span span

theorem collects_caseOf {operand : Option Grammar.SimpleExpr} {branches : List CaseBranch}
    {otherwise : Option Grammar.Expr} (first : Passes source before (simpleExpr? operand))
    (second : Passes source middle (caseBranches branches))
    (third : Passes source after (expr? otherwise)) :
    Collects source (before ++ (middle ++ after))
      (simpleExpr (.caseOf span operand branches otherwise)) (Leaf.kept span) := by
  rw [simpleExpr]
  apply first.drop
  intro _
  apply second.drop
  intro _
  apply third.dropLast
  intro _
  exact collects_verbatimLeaf span span

theorem passes_someSimpleExpr {node : Grammar.SimpleExpr}
    (passes : Passes source tokens (simpleExpr node)) :
    Passes source tokens (simpleExpr? (some node)) := by
  rw [simpleExpr?]
  apply passes.dropLast
  intro _
  exact collects_pure rfl

theorem passes_noSimpleExpr : Passes source [] (simpleExpr? none) := by
  rw [simpleExpr?]
  exact collects_pure rfl

theorem passes_branch {rest : List CaseBranch} {condition result : Grammar.Expr}
    (first : Passes source before (expr condition))
    (other : operator.kind ≠ .symbol .question) (second : Passes source after (expr result))
    (others : Passes source tokens (caseBranches rest)) :
    Passes source (before ++ operator :: (after ++ tokens))
      (caseBranches (⟨span, condition, result⟩ :: rest)) := by
  rw [caseBranches]
  apply first.drop
  intro _
  apply Collects.cons other
  apply second.drop
  intro _
  exact others

theorem passes_noBranches : Passes source [] (caseBranches []) := by
  rw [caseBranches]
  exact collects_pure rfl

/-! ### Lists of expressions -/

theorem collects_exprs {node : Grammar.Expr} {rest : List Grammar.Expr}
    (first : Collects source before (expr node) Segment.kept)
    (others : Collects source after (exprs rest) Segment.keptAmong) :
    Collects source (before ++ after) (exprs (node :: rest)) Segment.keptAmong := by
  intro offset
  rw [exprs]
  apply (first offset).bind
  intro segment keeps
  apply (others _).before
  intro segments keepsAmong
  apply walks_pure
  rw [Segment.keptAmong]
  exact keeps.left.append keepsAmong.right

theorem collects_noExprs : Collects source [] (exprs []) Segment.keptAmong := by
  rw [exprs]
  apply collects_pure
  rw [Segment.keptAmong]

theorem collects_singleExpr {node : Grammar.Expr}
    (collects : Collects source tokens (expr node) Segment.kept) :
    Collects source tokens (exprs [node]) Segment.keptAmong := by
  rw [← List.append_nil tokens]
  exact collects_exprs collects collects_noExprs

/-- Lists of expressions one behind the other are visited like one list. -/
theorem exprs_append (first second : List Grammar.Expr) :
    exprs (first ++ second) = (do
      let segments ← exprs first
      let others ← exprs second
      return segments ++ others) := by
  induction first with
  | nil => simp
  | cons node rest ih => simp [ih]

theorem passes_exprs {first second : List Grammar.Expr}
    (passes : Passes source before (exprs first))
    (others : Passes source after (exprs second)) :
    Passes source (before ++ after) (exprs (first ++ second)) := by
  rw [exprs_append]
  apply passes.drop
  intro _
  apply others.dropLast
  intro _
  exact collects_pure rfl

theorem passesOptional_none : PassesOptional source [] none := by
  constructor
  · rw [expr?]
    exact collects_pure rfl
  · exact collects_noExprs.passes

theorem passesOptional_some {node : Grammar.Expr}
    (collects : Collects source tokens (expr node) Segment.kept) :
    PassesOptional source tokens (some node) := by
  constructor
  · rw [expr?]
    apply collects.passes.dropLast
    intro _
    exact collects_pure rfl
  · exact (collects_singleExpr collects).passes

theorem passesOptional_cons {node : Option Grammar.Expr} (other : operator.kind ≠ .symbol .question)
    (passes : PassesOptional source tokens node) :
    PassesOptional source (operator :: tokens) node :=
  ⟨passes.alone.cons other, passes.listed.cons other⟩

/-! ### Calls -/

theorem passes_argument {node : Grammar.Expr} {rest : List AggregationArgument}
    (first : Passes source before (expr node))
    (others : Passes source after (aggregationArguments rest)) :
    Passes source (before ++ after) (aggregationArguments (.expr node :: rest)) := by
  rw [aggregationArguments]
  apply first.drop
  intro _
  exact others

theorem passes_noArguments : Passes source [] (aggregationArguments []) := by
  rw [aggregationArguments]
  exact collects_pure rfl

theorem passes_lastArgument {node : Grammar.Expr} (passes : Passes source tokens (expr node)) :
    Passes source tokens (aggregationArguments [.expr node]) := by
  rw [← List.append_nil tokens]
  exact passes_argument passes passes_noArguments

theorem passes_comma {rest : List AggregationArgument}
    (passes : Passes source tokens (aggregationArguments rest)) :
    Passes source tokens (aggregationArguments (.comma span :: rest)) := by
  rw [aggregationArguments]
  exact passes

theorem passes_asterisk {rest : List AggregationArgument}
    (passes : Passes source tokens (aggregationArguments rest)) :
    Passes source tokens (aggregationArguments (.asterisk span :: rest)) := by
  rw [aggregationArguments]
  exact passes

theorem passes_aggregation {nodes : List AggregationArgument} {name leftParen rightParen : Span}
    {distinct : Option Span} (passes : Passes source tokens (aggregationArguments nodes)) :
    Passes source tokens
      (aggregationCall ⟨span, name, leftParen, distinct, nodes, rightParen⟩) := by
  rw [aggregationCall]
  apply passes.dropLast
  intro _
  exact (quiet_aggregateUse _).passes

theorem passes_cast {node : Grammar.Expr} {target : DataType}
    (passes : Passes source tokens (expr node)) :
    Passes source tokens (specialCall (.cast ⟨span, node, target⟩)) := by
  rw [specialCall, castCall]
  apply passes.dropLast
  intro _
  apply (quiet_textAt target.name).before
  intro text
  apply (quiet_report rfl).before
  intro _
  exact (quiet_verbatimCall span).passes

/-- A call is kept as text behind its arguments. -/
theorem passes_keptCall {Value : Type} {annotator : Annotator Value}
    (passes : Passes source tokens annotator) :
    Passes source tokens (annotator >>= fun _ => verbatimCall span) := by
  apply passes.dropLast
  intro _
  exact (quiet_verbatimCall span).passes

theorem passes_substring {nodes : List Grammar.Expr} (passes : Passes source tokens (exprs nodes)) :
    Passes source tokens (specialCall (.substring span nodes)) := by
  rw [specialCall]
  exact passes_keptCall passes

theorem passes_trim {nodes : List Grammar.Expr} (passes : Passes source tokens (exprs nodes)) :
    Passes source tokens (specialCall (.trim span nodes)) := by
  rw [specialCall]
  exact passes_keptCall passes

theorem passes_extract {field : Identifier} {node : Grammar.Expr}
    (passes : Passes source tokens (expr node)) :
    Passes source tokens (specialCall (.extract span field node)) := by
  rw [specialCall]
  exact passes_keptCall passes

theorem passes_regular {name : Identifier} {nodes : List Grammar.Expr} {asterisk : Option Span}
    (passes : Passes source tokens (exprs nodes)) :
    Passes source tokens (regularCall ⟨span, name, nodes, asterisk⟩) := by
  rw [regularCall]
  exact passes_keptCall passes

/-! ### Order items and clauses -/

section
variable {ascending descending : Option Span}

theorem passes_orderColumn {name : Grammar.QualifiedName} {number : Option Span}
    {node : Option Grammar.Expr} (plain : Plain tokens) :
    Passes source tokens (orderItem ⟨span, some name, number, node, ascending, descending⟩) := by
  rw [← List.append_nil tokens]
  apply Collects.plain plain
  rw [orderItem]
  apply (quiet_column name).before
  intro column
  exact collects_pure rfl

theorem passes_orderNumber {number : Span} {node : Option Grammar.Expr} (plain : Plain tokens) :
    Passes source tokens (orderItem ⟨span, none, some number, node, ascending, descending⟩) := by
  rw [← List.append_nil tokens]
  apply Collects.plain plain
  rw [orderItem]
  apply (quiet_position number).before
  intro position
  exact collects_pure rfl

theorem passes_orderExpr {node : Grammar.Expr} (passes : Passes source tokens (expr node)) :
    Passes source tokens (orderItem ⟨span, none, none, some node, ascending, descending⟩) := by
  rw [orderItem]
  apply passes.dropLast
  intro _
  apply (quiet_textAt node.span).before
  intro text
  exact collects_pure rfl

end

theorem passes_orderItems {node : Grammar.OrderItem} {rest : List Grammar.OrderItem}
    (first : Passes source before (orderItem node))
    (others : Passes source after (orderItems rest)) :
    Passes source (before ++ after) (orderItems (node :: rest)) := by
  rw [orderItems]
  apply first.drop
  intro _
  apply others.dropLast
  intro _
  exact collects_pure rfl

theorem passes_noOrderItems : Passes source [] (orderItems []) := by
  rw [orderItems]
  exact collects_pure rfl

theorem passes_lastOrderItem {node : Grammar.OrderItem}
    (passes : Passes source tokens (orderItem node)) :
    Passes source tokens (orderItems [node]) := by
  rw [← List.append_nil tokens]
  exact passes_orderItems passes passes_noOrderItems

theorem passes_ordering {items : List Grammar.OrderItem}
    (passes : Passes source tokens (orderItems items)) :
    Passes source tokens (orderClause? (some ⟨span, items⟩)) := by
  have clause : Passes source tokens (orderClause ⟨span, items⟩) := by
    rw [orderClause]
    apply passes.dropLast
    intro _
    exact collects_pure rfl
  rw [orderClause?]
  apply clause.dropLast
  intro _
  exact collects_pure rfl

theorem passes_noOrdering : Passes source [] (orderClause? none) := by
  rw [orderClause?]
  exact collects_pure rfl

theorem collects_condition {node : Grammar.Expr}
    (collects : Collects source tokens (expr node) Segment.kept) :
    Collects source tokens (conditionClause? (some ⟨span, node⟩)) Condition.keptIn := by
  intro offset
  rw [conditionClause?]
  apply (collects offset).before
  intro segment keeps
  apply walks_pure
  rw [Condition.keptIn]
  exact keeps

theorem collects_noCondition : Collects source [] (conditionClause? none) Condition.keptIn := by
  rw [conditionClause?]
  apply collects_pure
  rw [Condition.keptIn]

/-! ### The select list -/

theorem collects_shorthand : Collects source [] (selectItem (.shorthand span)) SelectItem.kept := by
  rw [selectItem]
  apply collects_pure
  rw [SelectItem.kept]

theorem collects_qualifiedShorthand {owner : Grammar.Label} :
    Collects source [] (selectItem (.qualifiedShorthand span owner)) SelectItem.kept := by
  rw [selectItem]
  apply (quiet_placedName owner).before
  intro name
  apply collects_pure
  rw [SelectItem.kept]

theorem collects_exprItem {node : Grammar.Expr} {itemLabel : Option Grammar.Label}
    (collects : Collects source tokens (expr node) Segment.kept) :
    Collects source tokens (selectItem (.expr span node itemLabel)) SelectItem.kept := by
  intro offset
  rw [selectItem]
  apply (collects offset).before
  intro segment keeps
  apply (quiet_placedName? itemLabel _).after
  intro name _
  apply walks_pure
  rw [SelectItem.kept]
  exact keeps

theorem collects_selectItems {node : Grammar.SelectItem} {rest : List Grammar.SelectItem}
    (first : Collects source before (selectItem node) SelectItem.kept)
    (others : Collects source after (selectItems rest) SelectItem.keptAmong) :
    Collects source (before ++ after) (selectItems (node :: rest)) SelectItem.keptAmong := by
  intro offset
  rw [selectItems]
  apply (first offset).bind
  intro item keeps
  apply (others _).before
  intro items keepsAmong
  apply walks_pure
  rw [SelectItem.keptAmong]
  exact keeps.left.append keepsAmong.right

theorem collects_noSelectItems : Collects source [] (selectItems []) SelectItem.keptAmong := by
  rw [selectItems]
  apply collects_pure
  rw [SelectItem.keptAmong]

theorem collects_lastSelectItem {node : Grammar.SelectItem}
    (collects : Collects source tokens (selectItem node) SelectItem.kept) :
    Collects source tokens (selectItems [node]) SelectItem.keptAmong := by
  rw [← List.append_nil tokens]
  exact collects_selectItems collects collects_noSelectItems

/-! ### SELECT -/

/-- A statement is right for its tokens, and so is what it keeps. -/
theorem collects_select {distinct : Option Span} {listSpan : Span} {items : List Grammar.SelectItem}
    {tableList : Option NameList} {condition filter : Option ConditionClause}
    {grouping ordering : Option OrderClause}
    {plainTokens itemTokens tableTokens conditionTokens groupingTokens havingTokens
      orderingTokens : List Token}
    (plain : Plain plainTokens) (nonempty : plainTokens ≠ [])
    (collectsItems : Collects source itemTokens (selectItems items) SelectItem.keptAmong)
    (plainTables : Plain tableTokens)
    (collectsCondition : Collects source conditionTokens (conditionClause? condition)
      Condition.keptIn)
    (passesGrouping : Passes source groupingTokens (orderClause? grouping))
    (collectsHaving : Collects source havingTokens (conditionClause? filter) Condition.keptIn)
    (passesOrdering : Passes source orderingTokens (orderClause? ordering))
    (covers : span = cover (plainTokens ++ (itemTokens ++ (tableTokens ++ (conditionTokens ++
      (groupingTokens ++ (havingTokens ++ orderingTokens))))))) :
    Collects source
      (plainTokens ++ (itemTokens ++ (tableTokens ++ (conditionTokens ++ (groupingTokens ++
        (havingTokens ++ orderingTokens))))))
      (select ⟨span, distinct, ⟨listSpan, items⟩, tableList, condition, grouping, filter,
        ordering⟩) Statement.kept := by
  intro offset
  rw [select]
  apply Walks.plain plain
  apply (collectsItems offset).bind
  intro items keepsItems
  apply Walks.plain plainTables
  apply (quiet_tables? tableList _).after
  intro tables _
  apply (collectsCondition _).bind
  intro condition keepsCondition
  apply (passesGrouping _).bind
  intro grouping _
  apply (collectsHaving _).bind
  intro restriction keepsHaving
  apply (passesOrdering _).before
  intro ordering _
  apply walks_get.after
  intro progress counted
  apply walks_pure
  rw [Statement.kept]
  intro one member
  rcases List.mem_cons.mp member with rfl | member
  · -- the statement covers all of its tokens
    refine ⟨[], plainTokens ++ (itemTokens ++ (tableTokens ++ (conditionTokens ++
      (groupingTokens ++ (havingTokens ++ orderingTokens))))), [], (List.append_nil _).symm, ?_,
      covers, ?_⟩
    · exact List.append_ne_nil_of_left_ne_nil nonempty _
    · have total : (questions (plainTokens ++ (itemTokens ++ (tableTokens ++ (conditionTokens ++
          (groupingTokens ++ (havingTokens ++ orderingTokens))))))).length =
          (questions itemTokens).length + (questions conditionTokens).length +
            (questions groupingTokens).length + (questions havingTokens).length +
            (questions orderingTokens).length := by
        simp only [questions_append, questions_plain plain, questions_plain plainTables,
          List.length_append, List.length_nil]
        omega
      show progress.markers = _
      rw [List.nil_append, total]
      omega
  · apply Keeps.plain plain _ one member
    apply Keeps.append
    · apply Keeps.append
      · exact keepsItems.left
      · exact (keepsCondition.left.plain plainTables).right
    · exact ((keepsHaving.left.right.right).plain plainTables).right

theorem collects_subquery {node : Grammar.Select} {leftParen rightParen : Span}
    (collects : Collects source tokens (select node) Statement.kept) :
    Collects source tokens (subquery ⟨span, leftParen, node, rightParen⟩) Statement.kept := by
  rw [subquery]
  apply (quiet_report rfl).before
  intro _
  exact collects

end AnnotatedSql.Annotate
