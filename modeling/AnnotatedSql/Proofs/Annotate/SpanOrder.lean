/-
This file shows that the spans of an annotated text lie well: each has a text of its own, parts lie
inside their whole, and parts side by side lie one after the other.
-/

import AnnotatedSql.Proofs.Annotate.MarkerOrder
import AnnotatedSql.Proofs.Annotate.Placement

namespace AnnotatedSql

open Grammar (cover)

variable {source : Text} {tokens others before middle after : List Token} {token : Token}

namespace Annotate

/-! ### Lists and calls -/

theorem exprs_single {node : Grammar.Expr} (places : PlacesSegment source tokens (expr node)) :
    Places source tokens (exprs [node]) (Segment.AllPlaced source) (List.map Segment.span) := by
  intro laid progress
  rw [exprs, exprs]
  refine places.bind laid ?_
  intro segment _ placed siblings
  rw [pure_bind, Annotator.ensures_pure, Segment.AllPlaced, Segment.AllPlaced]
  exact ⟨⟨placed, trivial⟩, siblings⟩

theorem exprs_places {node : Grammar.Expr} {rest : List Grammar.Expr} {comma : Token}
    (first : PlacesSegment source before (expr node))
    (second : Places source after (exprs rest) (Segment.AllPlaced source)
      (List.map Segment.span)) :
    Places source (before ++ comma :: after) (exprs (node :: rest)) (Segment.AllPlaced source)
      (List.map Segment.span) := by
  intro laid progress
  rw [exprs]
  refine first.bind laid.left ?_
  intro segment _ placed siblings
  refine second.bind laid.right.tail ?_
  intro segments _ allPlaced others
  rw [Annotator.ensures_pure, Segment.AllPlaced]
  exact ⟨⟨placed, allPlaced⟩, laid.siblings siblings others.cons⟩

/-- The arguments of an aggregate start with its parenthesis and stop with the call. -/
theorem aggregation_places {name opening : Token} {distinct : Option Span}
    {arguments : List Grammar.AggregationArgument} {rightParen : Span} :
    PlacesCall source (name :: opening :: tokens)
      (aggregationCall ⟨cover (name :: opening :: tokens), name.span, opening.span, distinct,
        arguments, rightParen⟩) := by
  intro laid progress
  rw [aggregationCall]
  apply Annotator.ensures_drop
  intro _ middle
  unfold aggregateUse
  rw [Annotator.ensures_bind, Annotator.ensures_textAt]
  have nonempty : name :: opening :: tokens ≠ [] := List.cons_ne_nil _ _
  split
  · rw [Annotator.ensures_bind, Annotator.ensures_report]
    exact verbatimCall_places nonempty laid _
  · apply Annotator.ensures_drop
    intro texts _
    rw [Annotator.ensures_bind, Annotator.ensures_report, Annotator.ensures_pure]
    have region := laid.cover_tail (List.cons_ne_nil _ _)
    rw [List.head_cons] at region
    refine ⟨⟨laid.cover_fits nonempty, ?_, ?_⟩, .single (laid.inside_cover nonempty)⟩
    · rw [← region]
      exact laid.tail.cover_fits (List.cons_ne_nil _ _)
    · rw [← region]
      exact laid.within (Siblings.single
        (laid.tail.inside_cover (List.cons_ne_nil _ _))).cons.inside

/-- A call that is kept as text behind its arguments. -/
theorem keptCall_places {Value : Type} {annotator : Annotator Value} (nonempty : tokens ≠ []) :
    PlacesCall source tokens (annotator >>= fun _ => verbatimCall (cover tokens)) := by
  intro laid progress
  apply Annotator.ensures_drop
  intro _ _
  exact verbatimCall_places nonempty laid _

theorem cast_places {operand : Grammar.Expr} {target : Grammar.DataType} (nonempty : tokens ≠ []) :
    PlacesCall source tokens (specialCall (.cast ⟨cover tokens, operand, target⟩)) := by
  intro laid progress
  rw [specialCall, castCall]
  apply Annotator.ensures_drop
  intro _ _
  rw [dataType, Annotator.ensures_bind, Annotator.ensures_textAt, Annotator.ensures_bind,
    Annotator.ensures_report]
  exact verbatimCall_places nonempty laid _

/-! ### Order items and clauses -/

section
variable {span : Span} {ascending descending : Option Span}

theorem orderColumn_places {name : Grammar.QualifiedName} {number : Option Span}
    {inner : Option Grammar.Expr} (derived : name.Derives tokens) :
    PlacesItem source tokens
      (orderItem ⟨span, some name, number, inner, ascending, descending⟩) := by
  intro laid progress
  rw [orderItem]
  refine (column_places derived).bind laid ?_
  intro column _ placed siblings
  rw [Annotator.ensures_pure]
  exact ⟨placed, siblings⟩

theorem orderNumber_places {literal : Grammar.Literal} {number : Span}
    {inner : Option Grammar.Expr} (derived : literal.Derives tokens)
    (named : literal.number = some number) :
    PlacesItem source tokens
      (orderItem ⟨span, none, some number, inner, ascending, descending⟩) := by
  intro laid progress
  have covers : number = cover tokens := by
    cases derived with
    | negativeNumber => exact (Option.some.inj named).symm
    | number => exact (Option.some.inj named).symm.trans laid.cover_single.symm
    | _ => cases named
  rw [orderItem]
  apply Annotator.ensures_drop
  intro position _
  rw [Annotator.ensures_pure, covers]
  exact ⟨laid.cover_fits derived.nonempty, .single (laid.inside_cover derived.nonempty)⟩

theorem orderExpr_places {inner : Grammar.Expr} (nonempty : tokens ≠ [])
    (covers : Laid source tokens → inner.span = cover tokens) :
    PlacesItem source tokens
      (orderItem ⟨span, none, none, some inner, ascending, descending⟩) := by
  intro laid progress
  rw [orderItem]
  apply Annotator.ensures_drop
  intro _ _
  rw [Annotator.ensures_bind, Annotator.ensures_textAt, Annotator.ensures_pure, covers laid]
  exact ⟨(laid.cover_fits nonempty).spells, .single (laid.inside_cover nonempty)⟩

end

/-- All order items are placed, one after the other. -/
abbrev PlacesItems (source : Text) (tokens : List Token) (annotator : Annotator (List OrderItem)) :
    Prop :=
  Places source tokens annotator (fun items => ∀ item ∈ items, item.Placed source)
    (List.map OrderItem.span)

theorem orderItems_single {node : Grammar.OrderItem}
    (places : PlacesItem source tokens (orderItem node)) :
    PlacesItems source tokens (orderItems [node]) := by
  intro laid progress
  rw [orderItems, orderItems]
  refine places.bind laid ?_
  intro item _ placed siblings
  rw [pure_bind, Annotator.ensures_pure]
  refine ⟨?_, siblings⟩
  intro one member
  rw [List.mem_singleton.mp member]
  exact placed

theorem orderItems_places {node : Grammar.OrderItem} {rest : List Grammar.OrderItem}
    {comma : Token} (first : PlacesItem source before (orderItem node))
    (second : PlacesItems source after (orderItems rest)) :
    PlacesItems source (before ++ comma :: after) (orderItems (node :: rest)) := by
  intro laid progress
  rw [orderItems]
  refine first.bind laid.left ?_
  intro item _ placed siblings
  refine second.bind laid.right.tail ?_
  intro items _ allPlaced others
  rw [Annotator.ensures_pure]
  refine ⟨?_, laid.siblings siblings others.cons⟩
  intro one member
  rcases List.mem_cons.mp member with rfl | member
  · exact placed
  · exact allPlaced one member

/-- The clause, if there is one, is placed. -/
abbrev PlacesOrdering (source : Text) (tokens : List Token)
    (annotator : Annotator (Option OrderList)) : Prop :=
  Places source tokens annotator (fun list => ∀ clause ∈ list, clause.Placed source)
    fun list => (list.map OrderList.span).toList

theorem ordering_places {items : List Grammar.OrderItem} {opening byWord : Token}
    (places : PlacesItems source tokens (orderItems items)) :
    PlacesOrdering source (opening :: byWord :: tokens)
      (orderClause? (some ⟨cover (opening :: byWord :: tokens), items⟩)) := by
  intro laid progress
  have nonempty : opening :: byWord :: tokens ≠ [] := List.cons_ne_nil _ _
  rw [orderClause?, orderClause, bind_assoc]
  refine places.bind laid.tail.tail ?_
  intro list _ placed siblings
  rw [pure_bind, Annotator.ensures_pure]
  refine ⟨?_, .single (laid.inside_cover nonempty)⟩
  intro clause member
  obtain rfl := Option.some.inj member
  exact ⟨laid.cover_fits nonempty, laid.holds siblings.cons.cons, placed⟩

theorem noOrdering_places : PlacesOrdering source [] (orderClause? none) := by
  intro laid progress
  rw [orderClause?, Annotator.ensures_pure]
  exact ⟨nofun, .nil⟩

/-- The condition, if there is one, is placed. -/
abbrev PlacesCondition (source : Text) (tokens : List Token)
    (annotator : Annotator (Option Condition)) : Prop :=
  Places source tokens annotator (Condition.PlacedIn source)
    fun condition => (condition.map Condition.span).toList

theorem condition_places {inner : Grammar.Expr} {opening : Token}
    (places : PlacesSegment source tokens (expr inner)) :
    PlacesCondition source (opening :: tokens)
      (conditionClause? (some ⟨cover (opening :: tokens), inner⟩)) := by
  intro laid progress
  have nonempty : opening :: tokens ≠ [] := List.cons_ne_nil _ _
  rw [conditionClause?]
  refine places.bind laid.tail ?_
  intro segment _ placed siblings
  rw [Annotator.ensures_pure, Condition.PlacedIn]
  exact ⟨⟨laid.cover_fits nonempty, laid.within siblings.cons.inside, placed⟩,
    .single (laid.inside_cover nonempty)⟩

theorem noCondition_places : PlacesCondition source [] (conditionClause? none) := by
  intro laid progress
  rw [conditionClause?, Annotator.ensures_pure, Condition.PlacedIn]
  exact ⟨trivial, .nil⟩

/-! ### The select list -/

/-- The item is placed. -/
abbrev PlacesSelectItem (source : Text) (tokens : List Token) (annotator : Annotator SelectItem) :
    Prop :=
  Places source tokens annotator (SelectItem.Placed source) fun item => [item.span]

/-- All items of a list are placed, one after the other. -/
abbrev PlacesSelectItems (source : Text) (tokens : List Token)
    (annotator : Annotator (List SelectItem)) : Prop :=
  Places source tokens annotator (SelectItem.AllPlaced source) (List.map SelectItem.span)

theorem shorthand_places {operator : Token} :
    PlacesSelectItem source [operator] (selectItem (.shorthand operator.span)) := by
  intro laid progress
  rw [selectItem, Annotator.ensures_pure, SelectItem.Placed]
  exact ⟨⟨(laid.stands operator List.mem_cons_self).fits, nofun⟩,
    .single (inside_of_mem List.mem_cons_self)⟩

theorem qualifiedShorthand_places {owner : Token} (nonempty : owner :: tokens ≠ []) :
    PlacesSelectItem source (owner :: tokens)
      (selectItem (.qualifiedShorthand (cover (owner :: tokens)) (.ofToken owner))) := by
  intro laid progress
  rw [selectItem, placedName, Annotate.name]
  simp only [Annotator.ensures_bind, Annotator.ensures_textAt, Annotator.ensures_pure]
  rw [SelectItem.Placed]
  refine ⟨⟨laid.cover_fits nonempty, ?_⟩, .single (laid.inside_cover nonempty)⟩
  intro name member
  obtain rfl := Option.some.inj member
  exact ⟨(laid.stands owner List.mem_cons_self).fits,
    laid.within (inside_of_mem List.mem_cons_self)⟩

/-- A label is placed where its token stands. -/
theorem itemLabel_places {itemLabel : Option Grammar.Label}
    (derived : Grammar.ItemLabel itemLabel tokens) :
    Places source tokens (placedName? itemLabel) (fun name => ∀ placed ∈ name, placed.Placed source)
      fun name => (name.map PlacedName.span).toList := by
  intro laid progress
  cases derived with
  | absent =>
      rw [placedName?, Annotator.ensures_pure]
      refine ⟨fun placed member => ?_, .nil⟩
      cases member
  | @bare name =>
      simp only [placedName?, placedName, Annotate.name, Annotator.ensures_bind,
        Annotator.ensures_textAt, Annotator.ensures_pure]
      refine ⟨?_, .single (inside_of_mem List.mem_cons_self)⟩
      intro placed member
      obtain rfl := Option.some.inj member
      exact (laid.stands name List.mem_cons_self).fits
  | @led word name =>
      simp only [placedName?, placedName, Annotate.name, Annotator.ensures_bind,
        Annotator.ensures_textAt, Annotator.ensures_pure]
      have isName : name ∈ [word, name] := List.mem_cons_of_mem _ List.mem_cons_self
      refine ⟨?_, .single (inside_of_mem isName)⟩
      intro placed member
      obtain rfl := Option.some.inj member
      exact (laid.stands name isName).fits

theorem exprItem_places {inner : Grammar.Expr} {itemLabel : Option Grammar.Label}
    (places : PlacesSegment source before (expr inner)) (nonempty : before ≠ [])
    (derived : Grammar.ItemLabel itemLabel after) :
    PlacesSelectItem source (before ++ after)
      (selectItem (.expr (cover (before ++ after)) inner itemLabel)) := by
  intro laid progress
  have some : before ++ after ≠ [] := List.append_ne_nil_of_left_ne_nil nonempty _
  rw [selectItem]
  refine places.bind laid.left ?_
  intro segment _ placed siblings
  refine (itemLabel_places derived).bind laid.right ?_
  intro name _ placedName others
  rw [Annotator.ensures_pure, SelectItem.Placed]
  exact ⟨⟨laid.cover_fits some, placed, placedName, laid.holds (laid.siblings siblings others)⟩,
    .single (laid.inside_cover some)⟩

theorem selectItems_single {node : Grammar.SelectItem}
    (places : PlacesSelectItem source tokens (selectItem node)) :
    PlacesSelectItems source tokens (selectItems [node]) := by
  intro laid progress
  rw [selectItems, selectItems]
  refine places.bind laid ?_
  intro item _ placed siblings
  rw [pure_bind, Annotator.ensures_pure, SelectItem.AllPlaced, SelectItem.AllPlaced]
  exact ⟨⟨placed, trivial⟩, siblings⟩

theorem selectItems_places {node : Grammar.SelectItem} {rest : List Grammar.SelectItem}
    {comma : Token} (first : PlacesSelectItem source before (selectItem node))
    (second : PlacesSelectItems source after (selectItems rest)) :
    PlacesSelectItems source (before ++ comma :: after) (selectItems (node :: rest)) := by
  intro laid progress
  rw [selectItems]
  refine first.bind laid.left ?_
  intro item _ placed siblings
  refine second.bind laid.right.tail ?_
  intro items _ allPlaced others
  rw [Annotator.ensures_pure, SelectItem.AllPlaced]
  exact ⟨⟨placed, allPlaced⟩, laid.siblings siblings others.cons⟩

/-! ### Statements -/

/-- The parts of a statement lie one after the other, as they are visited. -/
theorem select_places {distinct : Option Span} {items : List Grammar.SelectItem}
    {tableList : Option Grammar.NameList} {condition having : Option Grammar.ConditionClause}
    {grouping ordering : Option Grammar.OrderClause}
    {itemTokens tableTokens conditionTokens groupingTokens havingTokens orderingTokens
      whole : List Token} (leading : List Token)
    (parts : whole = leading ++ (itemTokens ++ (tableTokens ++ (conditionTokens ++
      (groupingTokens ++ (havingTokens ++ orderingTokens))))))
    (nonempty : itemTokens ≠ [])
    (placesItems : PlacesSelectItems source itemTokens (selectItems items))
    (tables : Grammar.Tables tableList tableTokens)
    (placesCondition : PlacesCondition source conditionTokens (conditionClause? condition))
    (placesGrouping : PlacesOrdering source groupingTokens (orderClause? grouping))
    (placesHaving : PlacesCondition source havingTokens (conditionClause? having))
    (placesOrdering : PlacesOrdering source orderingTokens (orderClause? ordering)) :
    PlacesStatement source whole
      (select ⟨cover whole, distinct, ⟨cover itemTokens, items⟩, tableList, condition, grouping,
        having, ordering⟩) := by
  intro laid progress
  have some : whole ≠ [] := by
    rw [parts]
    exact List.append_ne_nil_of_right_ne_nil _ (List.append_ne_nil_of_left_ne_nil nonempty _)
  have fits := laid.cover_fits some
  have inside := laid.inside_cover some
  have behind : Laid source (itemTokens ++ (tableTokens ++ (conditionTokens ++
      (groupingTokens ++ (havingTokens ++ orderingTokens))))) := by
    rw [parts] at laid
    exact laid.right
  rw [select]
  refine placesItems.bind behind.left ?_
  intro items _ placedItems siblingsItems
  refine (tables_places tables).bind behind.right.left ?_
  intro tables _ placedTables siblingsTables
  refine placesCondition.bind behind.right.right.left ?_
  intro condition _ placedCondition siblingsCondition
  refine placesGrouping.bind behind.right.right.right.left ?_
  intro grouping _ placedGrouping siblingsGrouping
  refine placesHaving.bind behind.right.right.right.right.left ?_
  intro having _ placedHaving siblingsHaving
  refine placesOrdering.bind behind.right.right.right.right.right ?_
  intro ordering _ placedOrdering siblingsOrdering
  rw [Annotator.ensures_bind, Annotator.ensures_get, Annotator.ensures_pure]
  have listInside : Siblings itemTokens [cover itemTokens] :=
    .single (behind.left.inside_cover nonempty)
  have siblings := behind.siblings listInside (behind.right.siblings siblingsTables
    (behind.right.right.siblings siblingsCondition
      (behind.right.right.right.siblings siblingsGrouping
        (behind.right.right.right.right.siblings siblingsHaving siblingsOrdering))))
  have list : (SelectList.mk (cover itemTokens) distinct.isSome items).Placed source := by
    rw [SelectList.Placed]
    exact ⟨behind.left.cover_fits nonempty, behind.left.holds siblingsItems, placedItems⟩
  rw [Statement.Placed]
  refine ⟨⟨fits, ?_, list, placedTables, placedCondition, placedGrouping, placedHaving,
    placedOrdering⟩, .single inside⟩
  apply laid.holds
  rw [parts]
  exact siblings.right

theorem subquery_places {node : Grammar.Select} {span leftParen rightParen : Span}
    (places : PlacesStatement source tokens (select node)) :
    PlacesStatement source tokens (subquery ⟨span, leftParen, node, rightParen⟩) := by
  intro laid progress
  rw [subquery, Annotator.ensures_bind, Annotator.ensures_report]
  exact places laid _

end Annotate

open Annotate in
/-- By induction on the derivation, with one case for each rule of the grammar. -/
theorem Grammar.Derives.placed {node : Grammar.Node} (derived : Grammar.DerivesWidely node tokens) :
    node.Placing source tokens := by
  induction derived with
  -- `expr`
  | logical _ _ _ first second => exact logical_places first second
  | xor _ _ _ first _ => exact xor_places first
  | negation _ _ places =>
      show PlacesSegment _ _ _
      rw [expr]
      exact places.mono (List.sublist_cons_self _ _)
  | paren _ _ _ places =>
      show PlacesSegment _ _ _
      rw [expr]
      exact places.mono ((List.sublist_cons_self _ _).trans (List.sublist_append_left _ _))
  | primary _ places =>
      show PlacesSegment _ _ _
      rw [expr]
      exact places
  -- `booleanPrimary`
  | isTest => exact isTest_places (by simp)
  | comparison _ _ _ first second => exact comparison_places first second
  | quantified _ _ _ _ _ second => exact quantified_places second
  | predicate _ places =>
      show PlacesSegment _ _ _
      rw [booleanPrimary]
      exact places
  -- `predicate`
  | inSubquery _ _ _ query first second => exact inSubquery_places first second query
  | inList _ _ _ opening _ closing first second => exact inList_places first opening second closing
  | between _ _ _ _ _ _ first second third => exact between_places first second third
  | like => exact like_places (by simp)
  | bitExpr _ places =>
      show PlacesSegment _ _ _
      rw [Annotate.predicate]
      exact places
  -- `bitExpr`
  | binary => exact binary_places (by simp)
  | simple _ places => exact places
  -- `simpleExpr`
  | existence _ _ places =>
      exact subqueryLeaf_places (places.mono (List.sublist_cons_self _ _)) (List.cons_ne_nil _ _)
        fun _ => rfl
  | bareSubquery query places =>
      exact subqueryLeaf_places places (query.nonempty rfl) fun laid => query.span_eq laid rfl
  | marker => exact markerLeaf_places
  | literal derived => exact literalLeaf_places derived
  | aggregationCall _ places =>
      apply callLeaf_places
      rw [functionCall]
      exact places
  | specialCall _ places =>
      apply callLeaf_places
      rw [functionCall]
      exact places
  | regularCall _ places =>
      apply callLeaf_places
      rw [functionCall]
      exact places
  | column derived => exact columnLeaf_places derived
  | unary => exact unary_places (List.cons_ne_nil _ _)
  | row => exact row_places (by simp)
  | caseOf => exact caseOf_places (by simp)
  -- lists
  | singleExpr _ places => exact exprs_single places
  | furtherExpr _ _ _ first others => exact exprs_places first others
  -- `functionCall`
  | aggregation => exact aggregation_places
  | cast => exact cast_places (by simp)
  | substring | extract | trim =>
      show PlacesCall _ _ _
      rw [Annotate.specialCall]
      exact keptCall_places (by simp)
  | regular =>
      show PlacesCall _ _ _
      rw [Annotate.regularCall]
      exact keptCall_places (by simp)
  -- `orderByItem` and the clauses
  | orderColumn derived => exact fun _ _ _ => orderColumn_places derived
  | orderNumber derived named => exact fun _ _ _ => orderNumber_places derived named
  | orderExpr inner _ =>
      exact fun _ _ _ => orderExpr_places (inner.nonempty rfl) fun laid => inner.span_eq laid rfl
  | orderItem _ _ places => exact (places _ _ _).mono (List.sublist_append_left _ _)
  | lastOrderItem _ places => exact orderItems_single places
  | furtherOrderItem _ _ _ first others => exact orderItems_places first others
  | noOrdering => exact noOrdering_places
  | ordering _ _ _ places => exact ordering_places places
  | noCondition => exact noCondition_places
  | condition _ _ places => exact condition_places places
  -- `select`
  | shorthand => exact shorthand_places
  | qualifiedShorthand => exact qualifiedShorthand_places (List.cons_ne_nil _ _)
  | exprItem inner derived places => exact exprItem_places places (inner.nonempty rfl) derived
  | lastSelectItem _ places => exact selectItems_single places
  | furtherSelectItem _ _ _ first others => exact selectItems_places first others
  | @select _ _ _ _ _ _ _ distinctTokens _ _ _ _ _ _ word _ _ list tables _ _ _ _ items condition
      grouping having ordering =>
      refine select_places (word :: distinctTokens) ?_ (list.nonempty rfl) items tables condition
        grouping having ordering
      simp only [List.append_assoc]
  | subquery _ _ _ places =>
      exact (subquery_places places).mono
        ((List.sublist_cons_self _ _).trans (List.sublist_append_left _ _))
  | _ => trivial

/-- A statement gives what its SELECT gives, counted from zero. -/
theorem Annotate.ensures_statement {tree : Grammar.Select} {progress : Progress}
    {holds : Statement → Prop}
    (select : ∀ before, (select tree).Ensures source before fun result _ => holds result) :
    (statement tree).Ensures source progress fun result _ => holds result := by
  rw [statement]
  apply Annotator.ensures_drop
  intro _ _
  rw [Annotator.ensures_bind, Annotator.ensures_report, Annotator.ensures_bind]
  refine (select _).mono ?_
  intro result _ held
  rw [Annotator.ensures_bind, Annotator.ensures_report, Annotator.ensures_pure]
  exact held

/-- Every span of an annotated text has a text in the source, lies inside the span of what it is
part of and apart from what stands beside it, and what is kept as text is the text under its
span. -/
theorem annotate_placed (source : Text) (statement : Statement)
    (annotated : annotate source = .ok statement) : statement.Placed source := by
  rcases outcome : annotateWithEvents source with ⟨result, events⟩
  rw [annotate, outcome] at annotated
  change result = .ok statement at annotated
  rw [annotated] at outcome
  obtain ⟨tree, after, parsed, run, _⟩ := annotateWithEvents_ok outcome
  obtain ⟨tokens, closing, ending, whole, _, _, derived⟩ := Grammar.parse_derives parsed
  rw [List.append_assoc] at whole
  have laid := derived.laid whole
  have selected : ∀ before, (Annotate.select tree).Ensures source before
      fun result _ => result.Placed source :=
    fun before => (derived.placed laid before).mono fun _ _ found => found.1
  exact Annotate.ensures_statement selected statement after run

/-- Characters of several bytes are split nowhere. -/
theorem annotate_placed_multibyte :
    ∃ statement,
      annotate "SELECT 'é', MAX(ü) FROM t WHERE a IN ('ß', ?) AND (b OR c) ORDER BY 1".toList =
          .ok statement ∧
        statement.Placed
          "SELECT 'é', MAX(ü) FROM t WHERE a IN ('ß', ?) AND (b OR c) ORDER BY 1".toList := by
  have succeeds : (annotate
      "SELECT 'é', MAX(ü) FROM t WHERE a IN ('ß', ?) AND (b OR c) ORDER BY 1".toList).isOk := by
    decide +kernel
  rcases run : annotate
      "SELECT 'é', MAX(ü) FROM t WHERE a IN ('ß', ?) AND (b OR c) ORDER BY 1".toList with
    error | statement
  · rw [run] at succeeds
    exact absurd succeeds Bool.false_ne_true
  · exact ⟨statement, rfl, annotate_placed _ statement run⟩

end AnnotatedSql
