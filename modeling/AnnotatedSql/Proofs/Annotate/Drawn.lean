/-
This file shows where the annotation of a node takes its value from: spans are those of parts of the
node, and a nested statement is the annotation of one of its subqueries.
-/

import AnnotatedSql.Proofs.Annotate.Outcome
import AnnotatedSql.Proofs.Grammar.Part

namespace AnnotatedSql

open Grammar (Part)

/-- The spans are parts of the node, and each statement that is kept is what the annotation of one of
its statements gives. -/
structure Drawn (source : Text) (parts : List Part) (spans : List Span) (kept : List Kept) :
    Prop where
  span : ∀ span ∈ spans, .span span ∈ parts
  statement : ∀ nested, .statement nested ∈ kept → ∃ child, .select child ∈ parts ∧
    ∃ before after, Annotate.select child source before = (.ok nested, after)

section
variable {source : Text} {parts more : List Part} {spans others : List Span}
  {kept further : List Kept}

@[grind .] theorem drawn_nil : Drawn source parts [] [] := ⟨nofun, nofun⟩

theorem Drawn.mono (drawn : Drawn source parts spans kept) (fewer : parts ⊆ more) :
    Drawn source more spans kept where
  span span member := fewer (drawn.span span member)
  statement nested member := by
    obtain ⟨child, found, run⟩ := drawn.statement nested member
    exact ⟨child, fewer found, run⟩

theorem Drawn.fewer (drawn : Drawn source parts spans kept)
    (fewer : ∀ one ∈ further, one ∈ kept) : Drawn source parts spans further where
  span := drawn.span
  statement nested member := drawn.statement nested (fewer _ member)

theorem Drawn.append (first : Drawn source parts spans kept)
    (second : Drawn source parts others further) :
    Drawn source parts (spans ++ others) (kept ++ further) where
  span span member := (List.mem_append.mp member).elim (first.span span) (second.span span)
  statement nested member :=
    (List.mem_append.mp member).elim (first.statement nested) (second.statement nested)

/-- A node has its own span, whatever its value keeps. -/
theorem Drawn.own {span : Span} (drawn : Drawn source parts spans kept)
    (member : .span span ∈ parts) : Drawn source parts [span] kept where
  span found only := by
    rw [List.mem_singleton.mp only]
    exact member
  statement := drawn.statement

/-- The spans are of no further matter. -/
theorem Drawn.forget (drawn : Drawn source parts spans kept) : Drawn source parts [] kept :=
  ⟨nofun, drawn.statement⟩

theorem drawn_span {span : Span} (member : .span span ∈ parts) : Drawn source parts [span] [] :=
  drawn_nil.own member

theorem drawn_marker {span place : Span} {index : Nat} (member : .span span ∈ parts) :
    Drawn source parts [span] [.marker place index] where
  span found only := by
    rw [List.mem_singleton.mp only]
    exact member
  statement nested found := by
    rw [List.mem_singleton] at found
    cases found

/-- A segment is drawn from the parts. -/
abbrev Segment.Drawn (source : Text) (parts : List Part) (segment : Segment) : Prop :=
  AnnotatedSql.Drawn source parts [segment.span] segment.kept

/-- Segments are drawn from the parts. -/
abbrev Segment.AllDrawn (source : Text) (parts : List Part) (segments : List Segment) : Prop :=
  AnnotatedSql.Drawn source parts (segments.map Segment.span) (Segment.keptAmong segments)

/-- The segment of a leaf is drawn from the parts; a value is no matter. -/
def Leaf.Drawn (source : Text) (parts : List Part) : Leaf → Prop
  | .segment found => found.Drawn source parts
  | .value _ => True

end

/-! ### The span of a node is a part of it -/

namespace Grammar

theorem SimpleExpr.span_mem_parts (node : SimpleExpr) : .span node.span ∈ node.parts := by
  cases node with
  | literal node => simp [SimpleExpr.span, SimpleExpr.parts, Literal.parts]
  | call node =>
      obtain ⟨_, _, _, _⟩ := node
      simp [SimpleExpr.span, SimpleExpr.parts, FunctionCall.parts]
  | column node => simp [SimpleExpr.span, SimpleExpr.parts, QualifiedName.parts]
  | _ => simp [SimpleExpr.span, SimpleExpr.parts]

theorem BitExpr.span_mem_parts (node : BitExpr) : .span node.span ∈ node.parts := by
  cases node with
  | simple operand =>
      rw [BitExpr.span, BitExpr.parts]
      exact operand.span_mem_parts
  | binary => simp [BitExpr.span, BitExpr.parts]

theorem Predicate.span_mem_parts (node : Predicate) : .span node.span ∈ node.parts := by
  cases node with
  | bitExpr operand =>
      rw [Predicate.span, Predicate.parts]
      exact operand.span_mem_parts
  | _ => simp [Predicate.span, Predicate.parts]

theorem BooleanPrimary.span_mem_parts (node : BooleanPrimary) : .span node.span ∈ node.parts := by
  cases node with
  | predicate inner =>
      rw [BooleanPrimary.span, BooleanPrimary.parts]
      exact inner.span_mem_parts
  | _ => simp [BooleanPrimary.span, BooleanPrimary.parts]

theorem Expr.span_mem_parts (node : Expr) : .span node.span ∈ node.parts := by
  cases node with
  | primary inner =>
      rw [Expr.span, Expr.parts]
      exact inner.span_mem_parts
  | _ => simp [Expr.span, Expr.parts]

theorem AggregationArgument.span_mem_partsAmong {nodes : List AggregationArgument}
    {node : AggregationArgument} (member : node ∈ nodes) :
    .span node.span ∈ AggregationArgument.partsAmong nodes := by
  induction nodes with
  | nil => cases member
  | cons first rest ih =>
      rcases List.mem_cons.mp member with rfl | later
      · cases node with
        | expr inner =>
            rw [AggregationArgument.partsAmong]
            exact List.mem_append_left _ inner.span_mem_parts
        | asterisk | comma => simp [AggregationArgument.partsAmong, AggregationArgument.span]
      · have behind := ih later
        cases first <;> simp [AggregationArgument.partsAmong, behind]

end Grammar

namespace Annotate

variable {source : Text} {parts : List Part} {progress : Progress} {span operator : Span}

/-! ### Single steps -/

/-- What is kept as text keeps nothing else. -/
theorem verbatimSegment_drawn (member : .span span ∈ parts) :
    (verbatimSegment span).Ensures source progress fun segment _ => segment.Drawn source parts := by
  rw [Annotator.ensures_verbatimSegment, Segment.Drawn, Segment.kept, Expression.kept]
  exact drawn_span member

theorem keptPredicate_drawn (member : .span span ∈ parts) :
    (keptPredicate span).Ensures source progress fun segment _ => segment.Drawn source parts := by
  rw [Annotator.ensures_keptPredicate, Segment.Drawn, Segment.kept, Expression.kept]
  exact drawn_span member

theorem leafSegment_drawn {leaf : Leaf} (member : .span span ∈ parts)
    (drawn : leaf.Drawn source parts) :
    (leafSegment span leaf).Ensures source progress fun segment _ => segment.Drawn source parts := by
  unfold leafSegment
  split
  · rw [Annotator.ensures_pure]
    exact drawn
  · rw [Annotator.ensures_pure, Segment.Drawn, Segment.kept, Expression.kept]
    exact drawn_marker member
  · split
    · rw [Annotator.ensures_pure, Segment.Drawn, Segment.kept, Expression.kept]
      exact drawn_span member
    · exact verbatimSegment_drawn member

theorem comparison_drawn {left right : Segment} (member : .span span ∈ parts)
    (first : left.Drawn source parts) (second : right.Drawn source parts) :
    (comparison span operator left right).Ensures source progress
      fun segment _ => segment.Drawn source parts := by
  unfold comparison
  split
  · rw [Annotator.ensures_bind, Annotator.ensures_report, Annotator.ensures_pure]
    exact first
  · split
    · rw [Annotator.ensures_pure, Segment.Drawn, Segment.kept, Predicate.kept, Comparand.kept]
      exact drawn_span member
    · simp only [Annotator.ensures_bind, Annotator.ensures_textAt, Annotator.ensures_read,
        Annotator.ensures_pure]
      rw [Segment.Drawn, Segment.kept, Predicate.kept, Comparand.kept]
      exact (second.fewer (right.kept_toExpression source)).own member

/-- A test keeps what its operand is tested with. -/
theorem test_drawn {operand : Segment} {negation : Option Span} {comparand : Text → Comparand}
    (member : .span span ∈ parts) (drawn : Drawn source parts [] (comparand source).kept) :
    (test span operand negation comparand).Ensures source progress
      fun segment _ => segment.Drawn source parts := by
  unfold test
  split
  · rw [Annotator.ensures_bind, Annotator.ensures_read, Annotator.ensures_pure, Segment.Drawn,
      Segment.kept, Predicate.kept]
    exact drawn.own member
  · exact keptPredicate_drawn member

/-- What a joined chain keeps are the parts of both its sides. -/
theorem join_drawn {left right : Segment} {connective : Connective} (member : .span span ∈ parts)
    (first : left.Drawn source parts) (second : right.Drawn source parts) :
    (left.join connective right span).Drawn source parts := by
  rw [Segment.Drawn, Segment.kept_join]
  exact (first.append second).own member

theorem verbatimCall_drawn (member : .span span ∈ parts) :
    (verbatimCall span).Ensures source progress fun call _ => .span call.span ∈ parts := by
  rw [Annotator.ensures_verbatimCall]
  exact member

theorem aggregateUse_drawn (node : Grammar.AggregationCall) (member : .span node.span ∈ parts) :
    (aggregateUse node).Ensures source progress fun call _ => .span call.span ∈ parts := by
  unfold aggregateUse
  rw [Annotator.ensures_bind, Annotator.ensures_textAt]
  split
  · rw [Annotator.ensures_bind, Annotator.ensures_report]
    exact verbatimCall_drawn member
  · refine Annotator.ensures_drop fun texts _ => ?_
    rw [Annotator.ensures_bind, Annotator.ensures_report, Annotator.ensures_pure]
    exact member

/-- The call of a function stands where the node of its sort stands. -/
theorem functionCall_drawn (node : Grammar.FunctionCall) (progress : Progress) :
    (functionCall node).Ensures source progress fun call _ => .span call.span ∈ node.parts := by
  obtain ⟨span, aggregation, special, regular⟩ := node
  cases aggregation with
  | some call =>
      obtain ⟨span, name, leftParen, distinct, arguments, rightParen⟩ := call
      rw [functionCall, aggregationCall]
      refine Annotator.ensures_drop fun _ _ => aggregateUse_drawn _ ?_
      simp [Grammar.FunctionCall.parts, Grammar.AggregationCall.partsIn,
        Grammar.AggregationCall.parts]
  | none =>
  cases special with
  | some call =>
      rw [functionCall]
      cases call with
      | cast call =>
          obtain ⟨span, operand, target⟩ := call
          rw [specialCall, castCall]
          refine Annotator.ensures_drop fun _ _ => ?_
          refine Annotator.ensures_drop fun _ _ => ?_
          refine Annotator.ensures_drop fun _ _ => verbatimCall_drawn ?_
          simp [Grammar.FunctionCall.parts, Grammar.SpecialCall.partsIn, Grammar.SpecialCall.parts,
            Grammar.CastCall.parts]
      | substring | trim | extract =>
          rw [specialCall]
          refine Annotator.ensures_drop fun _ _ => verbatimCall_drawn ?_
          simp [Grammar.FunctionCall.parts, Grammar.SpecialCall.partsIn, Grammar.SpecialCall.parts]
  | none =>
  cases regular with
  | some call =>
      obtain ⟨span, name, arguments, asterisk⟩ := call
      rw [functionCall, regularCall]
      refine Annotator.ensures_drop fun _ _ => verbatimCall_drawn ?_
      simp [Grammar.FunctionCall.parts, Grammar.RegularCall.partsIn, Grammar.RegularCall.parts]
  | none =>
      rw [functionCall]
      exact Annotator.ensures_throw

theorem column_drawn (node : Grammar.QualifiedName) (member : .span node.span ∈ parts) :
    (column node).Ensures source progress fun column _ => .span column.span ∈ parts := by
  refine Annotator.ensures_drop fun _ _ => ?_
  refine Annotator.ensures_drop fun _ _ => ?_
  rw [Annotator.ensures_pure]
  exact member

/-- A leaf that is kept as text keeps nothing else. -/
theorem verbatimLeaf_drawn (member : .span span ∈ parts) :
    (return .segment (← verbatimSegment span) : Annotator Leaf).Ensures source progress
      fun leaf _ => leaf.Drawn source parts := by
  rw [Annotator.ensures_bind]
  refine (verbatimSegment_drawn member).mono fun segment after drawn => ?_
  rw [Annotator.ensures_pure]
  exact drawn

/-! ### Nodes -/

mutual

theorem expr_drawn (node : Grammar.Expr) (progress : Progress) :
    (expr node).Ensures source progress fun segment _ => segment.Drawn source node.parts := by
  cases node with
  | primary inner =>
      rw [expr, Grammar.Expr.parts]
      exact booleanPrimary_drawn inner progress
  | logical span left operator right =>
      rw [expr, Annotator.ensures_bind]
      refine (expr_drawn left progress).mono fun leftSegment middle first => ?_
      rw [Annotator.ensures_bind]
      refine (expr_drawn right middle).mono fun rightSegment after second => ?_
      rw [Annotator.ensures_bind, Annotator.ensures_textAt]
      split
      · rw [Annotator.ensures_pure]
        exact join_drawn (by simp [Grammar.Expr.parts])
          (first.mono fun _ member => by simp [Grammar.Expr.parts, member])
          (second.mono fun _ member => by simp [Grammar.Expr.parts, member])
      · exact Annotator.ensures_throw
  | xor span left right =>
      rw [expr, Annotator.ensures_bind]
      refine (expr_drawn left progress).mono fun leftSegment middle first => ?_
      refine Annotator.ensures_drop fun _ after => ?_
      rw [Annotator.ensures_bind, Annotator.ensures_report, Annotator.ensures_pure]
      exact first.mono fun _ member => by simp [Grammar.Expr.parts, member]
  | not span operator operand =>
      rw [expr]
      exact (expr_drawn operand progress).mono fun _ _ drawn =>
        drawn.mono fun _ member => by simp [Grammar.Expr.parts, member]
  | paren span inner =>
      rw [expr]
      exact (expr_drawn inner progress).mono fun _ _ drawn =>
        drawn.mono fun _ member => by simp [Grammar.Expr.parts, member]

theorem booleanPrimary_drawn (node : Grammar.BooleanPrimary) (progress : Progress) :
    (booleanPrimary node).Ensures source progress
      fun segment _ => segment.Drawn source node.parts := by
  cases node with
  | predicate inner =>
      rw [booleanPrimary, Grammar.BooleanPrimary.parts]
      exact predicate_drawn inner progress
  | isTest span operand negation value =>
      rw [booleanPrimary]
      refine Annotator.ensures_drop fun _ middle => ?_
      rw [Annotator.ensures_bind, Annotator.ensures_report]
      exact verbatimSegment_drawn (by simp [Grammar.BooleanPrimary.parts])
  | comparison span left operator right =>
      rw [booleanPrimary, Annotator.ensures_bind]
      refine (booleanPrimary_drawn left progress).mono fun leftSegment middle first => ?_
      rw [Annotator.ensures_bind]
      refine (predicate_drawn right middle).mono fun rightSegment after second => ?_
      exact comparison_drawn (by simp [Grammar.BooleanPrimary.parts])
        (first.mono fun _ member => by simp [Grammar.BooleanPrimary.parts, member])
        (second.mono fun _ member => by simp [Grammar.BooleanPrimary.parts, member])
  | quantified span left operator quantifier query =>
      rw [booleanPrimary]
      refine Annotator.ensures_drop fun _ middle => ?_
      rw [Annotator.ensures_bind]
      refine (subquery_drawn query middle).mono fun statement after drawn => ?_
      rw [Annotator.ensures_pure, Segment.Drawn, Segment.kept, Expression.kept]
      exact (drawn.mono fun _ member => by simp [Grammar.BooleanPrimary.parts, member]).own
        (by simp [Grammar.BooleanPrimary.parts, Expression.span, Segment.span])

theorem predicate_drawn (node : Grammar.Predicate) (progress : Progress) :
    (predicate node).Ensures source progress fun segment _ => segment.Drawn source node.parts := by
  cases node with
  | bitExpr operand =>
      rw [predicate, Grammar.Predicate.parts]
      exact bitExpr_drawn operand progress
  | inSubquery span operand negation query =>
      rw [predicate]
      refine Annotator.ensures_drop fun _ middle => ?_
      rw [Annotator.ensures_bind]
      refine (subquery_drawn query middle).mono fun statement after drawn => ?_
      refine test_drawn (by simp [Grammar.Predicate.parts]) ?_
      rw [Comparand.kept, Expression.keptAmong, Expression.keptAmong, Expression.kept,
        List.append_nil]
      exact drawn.mono fun _ member => by simp [Grammar.Predicate.parts, member]
  | inList span operand negation leftParen items rightParen =>
      rw [predicate]
      refine Annotator.ensures_drop fun _ middle => ?_
      rw [Annotator.ensures_bind]
      refine (exprs_drawn items middle).mono fun segments after drawn => ?_
      refine test_drawn (by simp [Grammar.Predicate.parts]) ?_
      rw [Comparand.kept]
      refine (drawn.forget.fewer (Segment.keptAmong_toExpression segments source)).mono ?_
      exact fun _ member => by simp [Grammar.Predicate.parts, member]
  | between span operand negation lower upper =>
      rw [predicate]
      refine Annotator.ensures_drop fun _ middle => ?_
      rw [Annotator.ensures_bind]
      refine (bitExpr_drawn lower middle).mono fun lowerSegment next first => ?_
      rw [Annotator.ensures_bind]
      refine (predicate_drawn upper next).mono fun upperSegment after second => ?_
      refine test_drawn (by simp [Grammar.Predicate.parts]) ?_
      rw [Comparand.kept]
      rw [← List.append_nil []]
      refine Drawn.append ?_ ?_
      · refine (first.forget.fewer (lowerSegment.kept_toExpression source)).mono ?_
        exact fun _ member => by simp [Grammar.Predicate.parts, member]
      · refine (second.forget.fewer (upperSegment.kept_toExpression source)).mono ?_
        exact fun _ member => by simp [Grammar.Predicate.parts, member]
  | like span operand negation pattern escape =>
      rw [predicate]
      refine Annotator.ensures_drop fun _ _ => ?_
      refine Annotator.ensures_drop fun _ _ => ?_
      refine Annotator.ensures_drop fun _ _ => ?_
      exact keptPredicate_drawn (by simp [Grammar.Predicate.parts])

theorem bitExpr_drawn (node : Grammar.BitExpr) (progress : Progress) :
    (bitExpr node).Ensures source progress fun segment _ => segment.Drawn source node.parts := by
  cases node with
  | simple operand =>
      rw [bitExpr, Annotator.ensures_bind, Grammar.BitExpr.parts]
      refine (simpleExpr_drawn operand progress).mono fun leaf after drawn => ?_
      exact leafSegment_drawn operand.span_mem_parts drawn
  | binary span left operator right =>
      rw [bitExpr]
      refine Annotator.ensures_drop fun _ _ => ?_
      refine Annotator.ensures_drop fun _ _ => ?_
      exact verbatimSegment_drawn (by simp [Grammar.BitExpr.parts])

theorem simpleExpr_drawn (node : Grammar.SimpleExpr) (progress : Progress) :
    (simpleExpr node).Ensures source progress fun leaf _ => leaf.Drawn source node.parts := by
  cases node with
  | subquery span word query =>
      rw [simpleExpr, Annotator.ensures_bind]
      refine (subquery_drawn query progress).mono fun statement after drawn => ?_
      rw [Annotator.ensures_pure, Leaf.Drawn, Segment.Drawn, Segment.kept, Expression.kept]
      exact (drawn.mono fun _ member => by simp [Grammar.SimpleExpr.parts, member]).own
        (by simp [Grammar.SimpleExpr.parts, Expression.span, Segment.span])
  | marker span =>
      rw [simpleExpr]
      refine Annotator.ensures_drop fun _ _ => ?_
      rw [Annotator.ensures_pure]
      exact trivial
  | literal node =>
      rw [simpleExpr]
      refine Annotator.ensures_drop fun _ _ => ?_
      rw [Annotator.ensures_pure]
      exact trivial
  | call node =>
      rw [simpleExpr, Annotator.ensures_bind, Grammar.SimpleExpr.parts]
      refine (functionCall_drawn node progress).mono fun call after member => ?_
      rw [Annotator.ensures_pure, Leaf.Drawn, Segment.Drawn, Segment.kept, Expression.kept]
      exact drawn_span member
  | column node =>
      have member : .span node.span ∈ node.parts := by simp [Grammar.QualifiedName.parts]
      rw [simpleExpr, Annotator.ensures_bind, Grammar.SimpleExpr.parts]
      refine (column_drawn node member).mono fun column after member => ?_
      rw [Annotator.ensures_pure, Leaf.Drawn, Segment.Drawn, Segment.kept, Expression.kept]
      exact drawn_span member
  | unary span operator operand =>
      rw [simpleExpr]
      exact Annotator.ensures_drop fun _ _ =>
        verbatimLeaf_drawn (by simp [Grammar.SimpleExpr.parts])
  | row span items =>
      rw [simpleExpr]
      exact Annotator.ensures_drop fun _ _ =>
        verbatimLeaf_drawn (by simp [Grammar.SimpleExpr.parts])
  | caseOf span operand branches otherwise =>
      rw [simpleExpr]
      refine Annotator.ensures_drop fun _ _ => ?_
      refine Annotator.ensures_drop fun _ _ => ?_
      exact Annotator.ensures_drop fun _ _ =>
        verbatimLeaf_drawn (by simp [Grammar.SimpleExpr.parts])

theorem exprs_drawn (nodes : List Grammar.Expr) (progress : Progress) :
    (exprs nodes).Ensures source progress fun segments _ =>
      Segment.AllDrawn source (Grammar.Expr.partsAmong nodes) segments := by
  cases nodes with
  | nil =>
      rw [exprs, Annotator.ensures_pure, Segment.AllDrawn, Segment.keptAmong]
      exact drawn_nil
  | cons first rest =>
      rw [exprs, Annotator.ensures_bind]
      refine (expr_drawn first progress).mono fun segment middle here => ?_
      rw [Annotator.ensures_bind]
      refine (exprs_drawn rest middle).mono fun segments after later => ?_
      rw [Annotator.ensures_pure, Segment.AllDrawn, Segment.keptAmong, List.map_cons]
      exact (here.mono fun _ member => by simp [Grammar.Expr.partsAmong, member]).append
        (later.mono fun _ member => by simp [Grammar.Expr.partsAmong, member])

theorem conditionClause_drawn (clause : Option Grammar.ConditionClause) (progress : Progress) :
    (conditionClause? clause).Ensures source progress fun condition _ =>
      Drawn source (Grammar.ConditionClause.partsIn clause) [] (Condition.keptIn condition) := by
  cases clause with
  | none =>
      rw [conditionClause?, Annotator.ensures_pure, Condition.keptIn]
      exact drawn_nil
  | some clause =>
      obtain ⟨span, node⟩ := clause
      rw [conditionClause?, Annotator.ensures_bind]
      refine (expr_drawn node progress).mono fun segment after drawn => ?_
      rw [Annotator.ensures_pure, Condition.keptIn]
      refine drawn.forget.mono fun _ member => ?_
      simp [Grammar.ConditionClause.partsIn, member]

theorem selectItem_drawn (node : Grammar.SelectItem) (progress : Progress) :
    (selectItem node).Ensures source progress fun item _ =>
      Drawn source node.parts [] item.kept := by
  cases node with
  | shorthand span =>
      rw [selectItem, Annotator.ensures_pure, SelectItem.kept]
      exact drawn_nil
  | qualifiedShorthand span owner =>
      rw [selectItem]
      refine Annotator.ensures_drop fun _ _ => ?_
      rw [Annotator.ensures_pure, SelectItem.kept]
      exact drawn_nil
  | expr span node itemLabel =>
      rw [selectItem, Annotator.ensures_bind]
      refine (expr_drawn node progress).mono fun segment after drawn => ?_
      refine Annotator.ensures_drop fun _ _ => ?_
      rw [Annotator.ensures_pure, SelectItem.kept]
      exact drawn.forget.mono fun _ member => by simp [Grammar.SelectItem.parts, member]

theorem selectItems_drawn (nodes : List Grammar.SelectItem) (progress : Progress) :
    (selectItems nodes).Ensures source progress fun items _ =>
      Drawn source (Grammar.SelectItem.partsAmong nodes) [] (SelectItem.keptAmong items) := by
  cases nodes with
  | nil =>
      rw [selectItems, Annotator.ensures_pure, SelectItem.keptAmong]
      exact drawn_nil
  | cons first rest =>
      rw [selectItems, Annotator.ensures_bind]
      refine (selectItem_drawn first progress).mono fun item middle here => ?_
      rw [Annotator.ensures_bind]
      refine (selectItems_drawn rest middle).mono fun items after later => ?_
      rw [Annotator.ensures_pure, SelectItem.keptAmong]
      exact (here.mono fun _ member => by simp [Grammar.SelectItem.partsAmong, member]).append
        (later.mono fun _ member => by simp [Grammar.SelectItem.partsAmong, member])

/-- A statement keeps itself, and what its conditions and items keep. -/
theorem select_drawn (node : Grammar.Select) (progress : Progress) :
    (select node).Ensures source progress fun statement _ =>
      ∃ inner, statement.kept = .statement statement :: inner ∧
        Drawn source node.parts [] inner := by
  obtain ⟨span, distinct, ⟨listSpan, nodes⟩, tableList, where_, grouping, having, ordering⟩ := node
  rw [select, Annotator.ensures_bind]
  refine (selectItems_drawn nodes progress).mono fun items _ listed => ?_
  refine Annotator.ensures_drop fun tables next => ?_
  rw [Annotator.ensures_bind]
  refine (conditionClause_drawn where_ next).mono fun condition _ first => ?_
  refine Annotator.ensures_drop fun groups next => ?_
  rw [Annotator.ensures_bind]
  refine (conditionClause_drawn having next).mono fun filter _ second => ?_
  refine Annotator.ensures_drop fun orders next => ?_
  rw [Annotator.ensures_bind, Annotator.ensures_get, Annotator.ensures_pure]
  refine ⟨_, by rw [Statement.kept], ?_⟩
  refine ((listed.mono ?_).append (first.mono ?_)).append (second.mono ?_)
  all_goals exact fun _ member => by simp [Grammar.Select.parts, member]

theorem subquery_drawn (node : Grammar.Subquery) (progress : Progress) :
    (subquery node).Ensures source progress fun statement _ =>
      Drawn source node.parts [] statement.kept := by
  obtain ⟨span, leftParen, child, rightParen⟩ := node
  rw [subquery, Annotator.ensures_bind, Annotator.ensures_report]
  intro statement after run
  obtain ⟨inner, kept, drawn⟩ := select_drawn child _ statement after run
  rw [kept]
  refine ⟨nofun, fun nested member => ?_⟩
  rcases List.mem_cons.mp member with itself | within
  · obtain rfl := Kept.statement.inj itself
    exact ⟨child, by simp [Grammar.Subquery.parts], _, _, run⟩
  · obtain ⟨below, found, run⟩ := drawn.statement nested within
    exact ⟨below, by simp [Grammar.Subquery.parts, found], run⟩

end

end Annotate

end AnnotatedSql
