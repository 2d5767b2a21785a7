/-
This file shows that owners and aliases are the names under their spans, and that the span of a table
name is that of its whole reference.
-/

import AnnotatedSql.Proofs.Annotate.Reference
import AnnotatedSql.Proofs.Annotate.SpanOrder

namespace AnnotatedSql

variable {source : Text} {tokens before middle after : List Token}

namespace Annotate

/-! ### Segments -/

theorem verbatimSegment_names (span : Span) :
    Names source tokens (verbatimSegment span) Segment.namings := by
  intro _ progress
  rw [Annotator.ensures_verbatimSegment, Segment.namings, Expression.namings]
  exact allSit_nil

theorem logical_names {left right : Grammar.Expr} {operator : Token} {span sign : Span}
    (first : Names source before (expr left) Segment.namings)
    (second : Names source after (expr right) Segment.namings) :
    Names source (before ++ operator :: after) (expr (.logical span left sign right))
      Segment.namings := by
  intro laid progress
  rw [expr]
  refine first.bind laid.left ?_
  intro left _ sitsLeft
  refine second.bind laid.right.tail ?_
  intro right _ sitsRight
  rw [Annotator.ensures_bind, Annotator.ensures_textAt]
  split
  · rw [Annotator.ensures_pure, Segment.namings_join, allSit_append]
    exact ⟨sitsLeft, sitsRight⟩
  · exact Annotator.ensures_throw

theorem xor_names {left right : Grammar.Expr} {operator : Token} {span : Span}
    (first : Names source before (expr left) Segment.namings) :
    Names source (before ++ operator :: after) (expr (.xor span left right)) Segment.namings := by
  intro laid progress
  rw [expr]
  refine first.bind laid.left ?_
  intro left _ sits
  apply Annotator.ensures_drop
  intro _ _
  rw [Annotator.ensures_bind, Annotator.ensures_report, Annotator.ensures_pure]
  exact sits

theorem isTest_names {operand : Grammar.BooleanPrimary} {negation : Option Span}
    {span value : Span} :
    Names source tokens (booleanPrimary (.isTest span operand negation value)) Segment.namings := by
  rw [booleanPrimary]
  exact .dropped fun _ => .dropped fun _ => verbatimSegment_names span

/-- A comparison has the namings of what it compares. -/
theorem comparison_names (span operator : Span) {left right : Segment}
    (sitsLeft : Naming.AllSit source left.namings)
    (sitsRight : Naming.AllSit source right.namings) :
    Names source tokens (comparison span operator left right) Segment.namings := by
  intro _ progress
  unfold comparison
  split
  · rw [Annotator.ensures_bind, Annotator.ensures_report, Annotator.ensures_pure]
    exact sitsLeft
  next column found =>
    rw [Segment.namings_column found] at sitsLeft
    split
    next other otherFound =>
      rw [Segment.namings_column otherFound] at sitsRight
      rw [Annotator.ensures_pure, Segment.namings, Predicate.namings, Comparand.namings,
        allSit_append]
      exact ⟨sitsLeft, sitsRight⟩
    · rw [Annotator.ensures_bind, Annotator.ensures_textAt, Annotator.ensures_bind,
        Annotator.ensures_read, Annotator.ensures_pure, Segment.namings, Predicate.namings,
        Comparand.namings, allSit_append]
      exact ⟨sitsLeft, Segment.allSit_toExpression sitsRight⟩

theorem comparisonNode_names {left : Grammar.BooleanPrimary} {right : Grammar.Predicate}
    {operator : Token} {span sign : Span}
    (first : Names source before (booleanPrimary left) Segment.namings)
    (second : Names source after (predicate right) Segment.namings) :
    Names source (before ++ operator :: after) (booleanPrimary (.comparison span left sign right))
      Segment.namings := by
  intro laid progress
  rw [booleanPrimary]
  refine first.bind laid.left ?_
  intro left _ sitsLeft
  refine second.bind laid.right.tail ?_
  intro right _ sitsRight
  exact comparison_names span sign sitsLeft sitsRight laid _

theorem quantified_names {left : Grammar.BooleanPrimary} {query : Grammar.Subquery}
    {operator quantifier : Token} {span sign word : Span}
    (second : Names source after (subquery query) Statement.namings) :
    Names source (before ++ operator :: quantifier :: after)
      (booleanPrimary (.quantified span left sign word query)) Segment.namings := by
  intro laid progress
  rw [booleanPrimary]
  apply Annotator.ensures_drop
  intro _ _
  refine second.bind laid.right.tail.tail ?_
  intro statement _ sits
  rw [Annotator.ensures_pure, Segment.namings, Expression.namings]
  exact sits

/-! ### Predicates -/

/-- A test has the namings of the column and of what it is tested for. -/
theorem test_names (span : Span) {operand : Segment} (negation : Option Span)
    {comparand : Text → Comparand} (sits : Naming.AllSit source operand.namings)
    (sitsComparand : Naming.AllSit source (comparand source).namings) :
    Names source tokens (test span operand negation comparand) Segment.namings := by
  intro _ progress
  unfold test
  split
  next found =>
    rw [Segment.namings_column found] at sits
    rw [Annotator.ensures_bind, Annotator.ensures_read, Annotator.ensures_pure, Segment.namings,
      Predicate.namings, allSit_append]
    exact ⟨sits, sitsComparand⟩
  · rw [Annotator.ensures_keptPredicate, Segment.namings, Expression.namings]
    exact allSit_nil

section
variable {operand : Grammar.BitExpr} {negation : Option Span} {span : Span} {word : Token}
  {plainTokens : List Token}

theorem inSubquery_names {query : Grammar.Subquery}
    (first : Names source before (bitExpr operand) Segment.namings)
    (second : Names source after (subquery query) Statement.namings) :
    Names source (before ++ plainTokens ++ word :: after)
      (predicate (.inSubquery span operand negation query)) Segment.namings := by
  intro laid progress
  rw [predicate]
  refine first.bind laid.left.left ?_
  intro operand _ sits
  refine second.bind laid.right.tail ?_
  intro statement _ sitsStatement
  apply test_names span negation sits _ laid
  rw [Comparand.namings, Expression.namingsAmong, Expression.namings, Expression.namingsAmong,
    List.append_nil]
  exact sitsStatement

theorem inList_names {items : List Grammar.Expr} {leftParen rightParen : Span}
    {opening closing : Token} (first : Names source before (bitExpr operand) Segment.namings)
    (second : Names source after (exprs items) Segment.namingsAmong) :
    Names source (before ++ plainTokens ++ word :: opening :: after ++ [closing])
      (predicate (.inList span operand negation leftParen items rightParen)) Segment.namings := by
  intro laid progress
  rw [predicate]
  refine first.bind laid.left.left.left ?_
  intro operand _ sits
  refine second.bind laid.left.right.tail.tail ?_
  intro candidates _ sitsCandidates
  apply test_names span negation sits _ laid
  rw [Comparand.namings]
  exact Expression.allSit_toExpression sitsCandidates

theorem between_names {lower : Grammar.BitExpr} {upper : Grammar.Predicate} {operator : Token}
    (first : Names source before (bitExpr operand) Segment.namings)
    (second : Names source middle (bitExpr lower) Segment.namings)
    (third : Names source after (predicate upper) Segment.namings) :
    Names source (before ++ plainTokens ++ word :: middle ++ operator :: after)
      (predicate (.between span operand negation lower upper)) Segment.namings := by
  intro laid progress
  rw [predicate]
  refine first.bind laid.left.left.left ?_
  intro operand _ sits
  refine second.bind laid.left.right.tail ?_
  intro lower _ sitsLower
  refine third.bind laid.right.tail ?_
  intro upper _ sitsUpper
  apply test_names span negation sits _ laid
  rw [Comparand.namings, allSit_append]
  exact ⟨Segment.allSit_toExpression sitsLower, Segment.allSit_toExpression sitsUpper⟩

theorem like_names {pattern : Grammar.SimpleExpr} {escape : Option Grammar.SimpleExpr} :
    Names source tokens (predicate (.like span operand negation pattern escape))
      Segment.namings := by
  rw [predicate]
  refine .dropped fun _ => .dropped fun _ => .dropped fun _ => ?_
  intro _ progress
  rw [Annotator.ensures_keptPredicate, Segment.namings, Expression.namings]
  exact allSit_nil

end

/-! ### Simple expressions -/

theorem binary_names {left right : Grammar.BitExpr} {span sign : Span} :
    Names source tokens (bitExpr (.binary span left sign right)) Segment.namings := by
  rw [bitExpr]
  exact .dropped fun _ => .dropped fun _ => verbatimSegment_names span

/-- A value of its own has no namings. -/
theorem leafValue_names (span : Span) (value : Value) :
    Names source tokens (leafSegment span (.value value)) Segment.namings := by
  unfold leafSegment
  split
  next found => cases found
  · intro _ progress
    rw [Annotator.ensures_pure, Segment.namings, Expression.namings]
    exact allSit_nil
  · split
    · intro _ progress
      rw [Annotator.ensures_pure, Segment.namings, Expression.namings]
      exact allSit_nil
    · exact verbatimSegment_names span

theorem markerLeaf_names {span : Span} :
    Names source tokens (bitExpr (.simple (.marker span))) Segment.namings := by
  rw [bitExpr, simpleExpr, bind_assoc]
  refine .dropped fun index => ?_
  rw [pure_bind]
  exact leafValue_names _ _

theorem literalLeaf_names {literal : Grammar.Literal} :
    Names source tokens (bitExpr (.simple (.literal literal))) Segment.namings := by
  rw [bitExpr, simpleExpr, bind_assoc]
  refine .dropped fun value => ?_
  rw [pure_bind]
  exact leafValue_names _ _

theorem subqueryLeaf_names {query : Grammar.Subquery} {span : Span} {existsWord : Option Span}
    (names : Names source tokens (subquery query) Statement.namings) :
    Names source tokens (bitExpr (.simple (.subquery span existsWord query))) Segment.namings := by
  intro laid progress
  rw [bitExpr, simpleExpr, bind_assoc]
  refine names.bind laid ?_
  intro statement _ sits
  rw [pure_bind, leafSegment, Annotator.ensures_pure, Segment.namings, Expression.namings]
  exact sits

/-- Calls are kept without the names in them. -/
theorem callLeaf_names {call : Grammar.FunctionCall} :
    Names source tokens (bitExpr (.simple (.call call))) Segment.namings := by
  rw [bitExpr, simpleExpr, bind_assoc]
  refine .dropped fun use => ?_
  intro _ progress
  rw [pure_bind, leafSegment, Annotator.ensures_pure, Segment.namings, Expression.namings]
  exact allSit_nil

theorem columnLeaf_names {name : Grammar.QualifiedName} (derived : name.Derives tokens) :
    Names source tokens (bitExpr (.simple (.column name))) Segment.namings := by
  intro laid progress
  rw [bitExpr, simpleExpr, bind_assoc]
  refine (column_names derived).bind laid ?_
  intro column _ sits
  rw [pure_bind, leafSegment, Annotator.ensures_pure, Segment.namings, Expression.namings]
  exact sits

/-- A leaf that is kept as text. -/
theorem verbatimLeaf_names {operand : Grammar.SimpleExpr} (visit : Annotator Unit)
    (kept : simpleExpr operand = visit >>= fun _ => do
      return .segment (← verbatimSegment operand.span)) :
    Names source tokens (bitExpr (.simple operand)) Segment.namings := by
  rw [bitExpr, kept, bind_assoc]
  refine .dropped fun _ => ?_
  intro laid progress
  rw [bind_assoc]
  refine (verbatimSegment_names operand.span).bind laid ?_
  intro segment _ sits
  rw [pure_bind, leafSegment, Annotator.ensures_pure]
  exact sits

/-! ### Lists and clauses -/

theorem exprs_single_names {node : Grammar.Expr}
    (names : Names source tokens (expr node) Segment.namings) :
    Names source tokens (exprs [node]) Segment.namingsAmong := by
  intro laid progress
  rw [exprs, exprs]
  refine names.bind laid ?_
  intro segment _ sits
  rw [pure_bind, Annotator.ensures_pure, Segment.namingsAmong, Segment.namingsAmong,
    List.append_nil]
  exact sits

theorem exprs_names {node : Grammar.Expr} {rest : List Grammar.Expr} {comma : Token}
    (first : Names source before (expr node) Segment.namings)
    (second : Names source after (exprs rest) Segment.namingsAmong) :
    Names source (before ++ comma :: after) (exprs (node :: rest)) Segment.namingsAmong := by
  intro laid progress
  rw [exprs]
  refine first.bind laid.left ?_
  intro segment _ sits
  refine second.bind laid.right.tail ?_
  intro segments _ allSit
  rw [Annotator.ensures_pure, Segment.namingsAmong, allSit_append]
  exact ⟨sits, allSit⟩

section
variable {span : Span} {ascending descending : Option Span}

theorem orderColumn_names {name : Grammar.QualifiedName} (derived : name.Derives tokens) :
    Names source tokens (orderItem ⟨span, some name, none, none, ascending, descending⟩)
      OrderItem.namings := by
  intro laid progress
  rw [orderItem]
  refine (column_names derived).bind laid ?_
  intro column _ sits
  rw [Annotator.ensures_pure]
  exact sits

theorem orderNumber_names {number : Span} :
    Names source tokens (orderItem ⟨span, none, some number, none, ascending, descending⟩)
      OrderItem.namings := by
  rw [orderItem]
  refine .dropped fun value => ?_
  intro _ progress
  rw [Annotator.ensures_pure]
  exact allSit_nil

theorem orderExpr_names {inner : Grammar.Expr} :
    Names source tokens (orderItem ⟨span, none, none, some inner, ascending, descending⟩)
      OrderItem.namings := by
  rw [orderItem]
  refine .dropped fun _ => .dropped fun text => ?_
  intro _ progress
  rw [Annotator.ensures_pure]
  exact allSit_nil

end

theorem orderItems_single_names {node : Grammar.OrderItem}
    (names : Names source tokens (orderItem node) OrderItem.namings) :
    Names source tokens (orderItems [node]) (List.flatMap OrderItem.namings) := by
  intro laid progress
  rw [orderItems, orderItems]
  refine names.bind laid ?_
  intro item _ sits
  rw [pure_bind, Annotator.ensures_pure, List.flatMap_singleton]
  exact sits

theorem orderItems_names {node : Grammar.OrderItem} {rest : List Grammar.OrderItem} {comma : Token}
    (first : Names source before (orderItem node) OrderItem.namings)
    (second : Names source after (orderItems rest) (List.flatMap OrderItem.namings)) :
    Names source (before ++ comma :: after) (orderItems (node :: rest))
      (List.flatMap OrderItem.namings) := by
  intro laid progress
  rw [orderItems]
  refine first.bind laid.left ?_
  intro item _ sits
  refine second.bind laid.right.tail ?_
  intro items _ allSit
  rw [Annotator.ensures_pure, List.flatMap_cons, allSit_append]
  exact ⟨sits, allSit⟩

theorem ordering_names {items : List Grammar.OrderItem} {span : Span} {opening byWord : Token}
    (names : Names source tokens (orderItems items) (List.flatMap OrderItem.namings)) :
    Names source (opening :: byWord :: tokens) (orderClause? (some ⟨span, items⟩))
      OrderList.namingsIn := by
  intro laid progress
  rw [orderClause?, orderClause, bind_assoc]
  refine names.bind laid.tail.tail ?_
  intro items _ sits
  rw [pure_bind, Annotator.ensures_pure]
  exact sits

theorem condition_names {node : Grammar.Expr} {span : Span} {opening : Token}
    (names : Names source tokens (expr node) Segment.namings) :
    Names source (opening :: tokens) (conditionClause? (some ⟨span, node⟩))
      Condition.namingsIn := by
  intro laid progress
  rw [conditionClause?]
  refine names.bind laid.tail ?_
  intro segment _ sits
  rw [Annotator.ensures_pure, Condition.namingsIn]
  exact sits

theorem shorthand_names {span : Span} :
    Names source tokens (selectItem (.shorthand span)) SelectItem.namings := by
  intro _ progress
  rw [selectItem, Annotator.ensures_pure, SelectItem.namings]
  exact allSit_nil

theorem qualifiedShorthand_names {owner : Token} {span : Span} :
    Names source (owner :: tokens) (selectItem (.qualifiedShorthand span (.ofToken owner)))
      SelectItem.namings := by
  intro laid progress
  rw [selectItem, placedName, Grammar.Label.ofToken, Annotator.ensures_bind, Annotator.ensures_bind,
    ensures_name, Annotator.ensures_pure, Annotator.ensures_pure, SelectItem.namings]
  exact allSit_owner (laid.stands owner List.mem_cons_self)

theorem exprItem_names {inner : Grammar.Expr} {itemLabel : Option Grammar.Label} {span : Span}
    (names : Names source before (expr inner) Segment.namings)
    (derived : Grammar.ItemLabel itemLabel after) :
    Names source (before ++ after) (selectItem (.expr span inner itemLabel))
      SelectItem.namings := by
  intro laid progress
  rw [selectItem]
  refine names.bind laid.left ?_
  intro segment _ sits
  refine (itemLabel_names derived).bind laid.right ?_
  intro placed _ sitsLabel
  rw [Annotator.ensures_pure, SelectItem.namings, allSit_append]
  exact ⟨sits, sitsLabel⟩

theorem selectItems_single_names {node : Grammar.SelectItem}
    (names : Names source tokens (selectItem node) SelectItem.namings) :
    Names source tokens (selectItems [node]) SelectItem.namingsAmong := by
  intro laid progress
  rw [selectItems, selectItems]
  refine names.bind laid ?_
  intro item _ sits
  rw [pure_bind, Annotator.ensures_pure, SelectItem.namingsAmong, SelectItem.namingsAmong,
    List.append_nil]
  exact sits

theorem selectItems_names {node : Grammar.SelectItem} {rest : List Grammar.SelectItem}
    {comma : Token} (first : Names source before (selectItem node) SelectItem.namings)
    (second : Names source after (selectItems rest) SelectItem.namingsAmong) :
    Names source (before ++ comma :: after) (selectItems (node :: rest))
      SelectItem.namingsAmong := by
  intro laid progress
  rw [selectItems]
  refine first.bind laid.left ?_
  intro item _ sits
  refine second.bind laid.right.tail ?_
  intro items _ allSit
  rw [Annotator.ensures_pure, SelectItem.namingsAmong, allSit_append]
  exact ⟨sits, allSit⟩

/-! ### Statements -/

theorem select_names {span listSpan : Span} {distinct : Option Span}
    {items : List Grammar.SelectItem} {tableList : Option Grammar.NameList}
    {condition having : Option Grammar.ConditionClause}
    {grouping ordering : Option Grammar.OrderClause}
    {itemTokens tableTokens conditionTokens groupingTokens havingTokens orderingTokens :
      List Token} (leading : List Token)
    (namesItems : Names source itemTokens (selectItems items) SelectItem.namingsAmong)
    (tables : Grammar.Tables tableList tableTokens)
    (namesCondition : Names source conditionTokens (conditionClause? condition)
      Condition.namingsIn)
    (namesGrouping : Names source groupingTokens (orderClause? grouping) OrderList.namingsIn)
    (namesHaving : Names source havingTokens (conditionClause? having) Condition.namingsIn)
    (namesOrdering : Names source orderingTokens (orderClause? ordering) OrderList.namingsIn) :
    Names source (leading ++ itemTokens ++ tableTokens ++ conditionTokens ++ groupingTokens ++
        havingTokens ++ orderingTokens)
      (select ⟨span, distinct, ⟨listSpan, items⟩, tableList, condition, grouping, having,
        ordering⟩) Statement.namings := by
  intro laid progress
  rw [select]
  refine namesItems.bind laid.left.left.left.left.left.right ?_
  intro items _ sitsItems
  refine (tables_names tables).bind laid.left.left.left.left.right ?_
  intro tables _ sitsTables
  refine namesCondition.bind laid.left.left.left.right ?_
  intro condition _ sitsCondition
  refine namesGrouping.bind laid.left.left.right ?_
  intro grouping _ sitsGrouping
  refine namesHaving.bind laid.left.right ?_
  intro having _ sitsHaving
  refine namesOrdering.bind laid.right ?_
  intro ordering _ sitsOrdering
  rw [Annotator.ensures_bind, Annotator.ensures_get, Annotator.ensures_pure, Statement.namings]
  simp only [allSit_append]
  exact ⟨⟨⟨⟨⟨sitsItems, sitsTables⟩, sitsCondition⟩, sitsGrouping⟩, sitsHaving⟩, sitsOrdering⟩

theorem subquery_names {node : Grammar.Select} {span leftParen rightParen : Span}
    (names : Names source tokens (select node) Statement.namings) :
    Names source tokens (subquery ⟨span, leftParen, node, rightParen⟩) Statement.namings := by
  rw [subquery]
  exact .dropped fun _ => names

end Annotate

/-- The annotation of a node of the grammar gives namings that sit. Calls and parts whose value is
dropped are of no matter. -/
def Grammar.Node.Naming (source : Text) : Grammar.Node → List Token → Prop
  | .expr node, tokens => Names source tokens (Annotate.expr node) Segment.namings
  | .primary node, tokens => Names source tokens (Annotate.booleanPrimary node) Segment.namings
  | .predicate node, tokens => Names source tokens (Annotate.predicate node) Segment.namings
  | .bitExpr node, tokens => Names source tokens (Annotate.bitExpr node) Segment.namings
  | .simpleExpr node, tokens =>
      Names source tokens (Annotate.bitExpr (.simple node)) Segment.namings
  | .exprs nodes, tokens => Names source tokens (Annotate.exprs nodes) Segment.namingsAmong
  | .orderTarget column number inner, tokens => ∀ span ascending descending,
      Names source tokens (Annotate.orderItem ⟨span, column, number, inner, ascending, descending⟩)
        AnnotatedSql.OrderItem.namings
  | .orderItem node, tokens =>
      Names source tokens (Annotate.orderItem node) AnnotatedSql.OrderItem.namings
  | .orderItems nodes, tokens =>
      Names source tokens (Annotate.orderItems nodes)
        (List.flatMap AnnotatedSql.OrderItem.namings)
  | .ordering _ clause, tokens =>
      Names source tokens (Annotate.orderClause? clause) OrderList.namingsIn
  | .condition _ clause, tokens =>
      Names source tokens (Annotate.conditionClause? clause) Condition.namingsIn
  | .selectItem node, tokens =>
      Names source tokens (Annotate.selectItem node) AnnotatedSql.SelectItem.namings
  | .selectItems nodes, tokens =>
      Names source tokens (Annotate.selectItems nodes) AnnotatedSql.SelectItem.namingsAmong
  | .select node, tokens => Names source tokens (Annotate.select node) Statement.namings
  | .subquery node, tokens => Names source tokens (Annotate.subquery node) Statement.namings
  | _, _ => True

open Annotate in
/-- By induction on the derivation, with one case for each rule of the grammar. -/
theorem Grammar.Derives.naming {node : Grammar.Node} (derived : Grammar.DerivesWidely node tokens) :
    node.Naming source tokens := by
  induction derived with
  -- `expr`
  | logical _ _ _ first second => exact logical_names first second
  | xor _ _ _ first _ => exact xor_names first
  | negation _ _ names =>
      show Names _ _ _ _
      rw [expr]
      exact names.mono (List.sublist_cons_self _ _)
  | paren _ _ _ names =>
      show Names _ _ _ _
      rw [expr]
      exact names.mono ((List.sublist_cons_self _ _).trans (List.sublist_append_left _ _))
  | primary _ names =>
      show Names _ _ _ _
      rw [expr]
      exact names
  -- `booleanPrimary`
  | isTest => exact isTest_names
  | comparison _ _ _ first second => exact comparisonNode_names first second
  | quantified _ _ _ _ _ second => exact quantified_names second
  | predicate _ names =>
      show Names _ _ _ _
      rw [booleanPrimary]
      exact names
  -- `predicate`
  | inSubquery _ _ _ _ first second => exact inSubquery_names first second
  | inList _ _ _ _ _ _ first second => exact inList_names first second
  | between _ _ _ _ _ _ first second third => exact between_names first second third
  | like => exact like_names
  | bitExpr _ names =>
      show Names _ _ _ _
      rw [Annotate.predicate]
      exact names
  -- `bitExpr`
  | binary => exact binary_names
  | simple _ names => exact names
  -- `simpleExpr`
  | existence _ _ names => exact subqueryLeaf_names (names.mono (List.sublist_cons_self _ _))
  | bareSubquery _ names => exact subqueryLeaf_names names
  | marker => exact markerLeaf_names
  | literal => exact literalLeaf_names
  | aggregationCall | specialCall | regularCall => exact callLeaf_names
  | column derived => exact columnLeaf_names derived
  | @unary operand =>
      apply verbatimLeaf_names (do let _ ← simpleExpr operand)
      simp [simpleExpr, Grammar.SimpleExpr.span]
  | @row items =>
      apply verbatimLeaf_names (do let _ ← exprs items)
      simp [simpleExpr, Grammar.SimpleExpr.span]
  | @caseOf operand branches otherwise =>
      apply verbatimLeaf_names (do simpleExpr? operand; caseBranches branches; expr? otherwise)
      simp [simpleExpr, Grammar.SimpleExpr.span]
  -- lists
  | singleExpr _ names => exact exprs_single_names names
  | furtherExpr _ _ _ first others => exact exprs_names first others
  -- `orderByItem` and the clauses
  | orderColumn derived => exact fun _ _ _ => orderColumn_names derived
  | orderNumber => exact fun _ _ _ => orderNumber_names
  | orderExpr => exact fun _ _ _ => orderExpr_names
  | orderItem _ _ names => exact (names _ _ _).mono (List.sublist_append_left _ _)
  | lastOrderItem _ names => exact orderItems_single_names names
  | furtherOrderItem _ _ _ first others => exact orderItems_names first others
  | noOrdering =>
      intro _ progress
      rw [orderClause?, Annotator.ensures_pure]
      exact allSit_nil
  | ordering _ _ _ names => exact ordering_names names
  | noCondition =>
      intro _ progress
      rw [conditionClause?, Annotator.ensures_pure, Condition.namingsIn]
      exact allSit_nil
  | condition _ _ names => exact condition_names names
  -- `select`
  | shorthand => exact shorthand_names
  | qualifiedShorthand => exact qualifiedShorthand_names
  | exprItem _ derived names => exact exprItem_names names derived
  | lastSelectItem _ names => exact selectItems_single_names names
  | furtherSelectItem _ _ _ first others => exact selectItems_names first others
  | @select _ _ _ _ _ _ _ distinctTokens _ _ _ _ _ _ word _ _ _ tables _ _ _ _ items condition
      grouping having ordering =>
      exact select_names (word :: distinctTokens) items tables condition grouping having ordering
  | subquery _ _ _ names =>
      exact (subquery_names names).mono
        ((List.sublist_cons_self _ _).trans (List.sublist_append_left _ _))
  | _ => trivial

/-- Every owner and every alias of an annotated statement, also of those nested in it, is the name
that the source has under its span. The span of a table name is that of the whole reference: it has
the name of the table exactly when no owner stands in front, and else the name is only its last
part. -/
theorem annotate_names (source : Text) (statement : Statement)
    (annotated : annotate source = .ok statement) :
    (∀ placed, .label placed ∈ statement.namings → placed.span.Names source placed.name) ∧
      ∀ table, .table table ∈ statement.namings → table.Covers source := by
  rcases outcome : annotateWithEvents source with ⟨result, events⟩
  rw [annotate, outcome] at annotated
  change result = .ok statement at annotated
  rw [annotated] at outcome
  obtain ⟨tree, after, parsed, run, _⟩ := annotateWithEvents_ok outcome
  obtain ⟨tokens, closing, ending, whole, _, _, derived⟩ := Grammar.parse_derives parsed
  rw [List.append_assoc] at whole
  have sits : Naming.AllSit source statement.namings :=
    Annotate.ensures_statement (derived.naming (derived.laid whole)) statement after run
  exact ⟨fun placed member => sits _ member, fun table member => sits _ member⟩

/-- The span of the table name `b` has the text `a.b`, which is no name of that table. -/
theorem annotate_names_owned :
    ∃ statement, annotate "SELECT 1 FROM a.b".toList = .ok statement ∧
      statement.tables = [⟨⟨⟨14, 16⟩, ⟨['b'], .bare⟩⟩, some ⟨⟨14, 14⟩, ⟨['a'], .bare⟩⟩⟩] ∧
      (Span.mk 14 14).Names "SELECT 1 FROM a.b".toList ⟨['a'], .bare⟩ ∧
      ¬ (Span.mk 14 16).Names "SELECT 1 FROM a.b".toList ⟨['b'], .bare⟩ := by
  have succeeds : (annotate "SELECT 1 FROM a.b".toList).toOption.map Statement.tables =
      some [⟨⟨⟨14, 16⟩, ⟨['b'], .bare⟩⟩, some ⟨⟨14, 14⟩, ⟨['a'], .bare⟩⟩⟩] := by
    decide +kernel
  rcases run : annotate "SELECT 1 FROM a.b".toList with error | statement
  · rw [run] at succeeds
    cases succeeds
  · rw [run] at succeeds
    have tables := Option.some.inj succeeds
    have named := annotate_names _ statement run
    have member : ∀ naming ∈ statement.tables.flatMap Table.namings, naming ∈ statement.namings := by
      obtain ⟨_, ⟨_, _, _⟩, _, _, _, _, _, _⟩ := statement
      intro naming found
      rw [Statement.namings]
      simp only [List.mem_append]
      exact .inl (.inl (.inl (.inl (.inr found))))
    rw [tables] at member
    refine ⟨statement, rfl, tables, ?_, ?_⟩
    · exact named.1 _ (member _ (List.mem_cons_of_mem _ List.mem_cons_self))
    · intro names
      have alone := (named.2 _ (member _ List.mem_cons_self)).alone.mp names
      cases alone

end AnnotatedSql
