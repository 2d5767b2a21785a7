/-
This file takes what an annotation gives apart into pieces, and goes once through all nodes to show
that every piece has the properties that each single step gives to its own.
-/

import AnnotatedSql.Proofs.Annotate.Outcome
import AnnotatedSql.Proofs.Grammar.Subtree

namespace AnnotatedSql

open Grammar (TreeNode)

/-! ### The pieces of a result -/

/-- A piece of a result, of one of the sorts that are segments or can hold some. -/
inductive Piece
  | expression (inner : Expression)
  | comparand (inner : Comparand)
  | predicate (inner : Predicate)
  | segment (inner : Segment)
  | selectItem (inner : SelectItem)
  | condition (inner : Condition)
  | statement (inner : Statement)

namespace Piece

/-- The pieces right below a piece, in the order of its fields. -/
def children : Piece → List Piece
  | .expression (.subquery _ nested) => [.statement nested]
  | .expression (.literal _ _) | .expression (.marker _ _) | .expression (.column _)
  | .expression (.verbatim _ _) | .expression (.call _) => []
  | .comparand (.compared _ value) => [.expression value]
  | .comparand (.among _ _ candidates) => candidates.map .expression
  | .comparand (.between lower upper) => [.expression lower, .expression upper]
  | .comparand (.column _) => []
  | .predicate inner => [.comparand inner.comparand]
  | .segment (.expression inner) => [.expression inner]
  | .segment (.predicate inner) => [.predicate inner]
  | .segment (.logical _ _ parts) => parts.map .segment
  | .selectItem (.shorthand _ _) => []
  | .selectItem (.expression _ inner _) => [.segment inner]
  | .condition inner => [.segment inner.segment]
  | .statement inner =>
      inner.selectList.items.map .selectItem ++ inner.condition.toList.map .condition ++
        inner.having.toList.map .condition

/-- The first piece is the second one or lies above it. -/
def Has : Piece → Piece → Prop :=
  Relation.ReflTransGen fun outer inner => inner ∈ outer.children

/-- Neither a literal nor a chain nor what a column is compared with. -/
def IsPlain : Piece → Prop
  | .expression (.literal _ _) | .segment (.logical _ _ _) | .comparand (.compared _ _) => False
  | _ => True

/-- The property holds of every piece of the result. -/
def All (holds : Piece → Prop) (whole : Piece) : Prop := ∀ part, whole.Has part → holds part

variable {holds : Piece → Prop} {piece : Piece}

theorem all_of_children (own : holds piece) (below : ∀ child ∈ piece.children, child.All holds) :
    piece.All holds := by
  intro part has
  rcases Relation.ReflTransGen.cases_head has with rfl | ⟨child, member, later⟩
  · exact own
  · exact below child member part later

theorem all_of_childless (own : holds piece) (alone : piece.children = []) : piece.All holds := by
  apply all_of_children own
  intro child member
  rw [alone] at member
  exact absurd member List.not_mem_nil

theorem all_of_child {only : Piece} (own : holds piece) (single : piece.children = [only])
    (all : only.All holds) : piece.All holds := by
  apply all_of_children own
  intro child member
  rw [single] at member
  rw [List.mem_singleton.mp member]
  exact all

theorem All.child {inner : Piece} (all : piece.All holds) (member : inner ∈ piece.children) :
    inner.All holds :=
  fun part has => all part (.head member has)

theorem all_statement {statement : Statement} (own : holds (.statement statement))
    (items : ∀ item ∈ statement.selectList.items, (selectItem item).All holds)
    (conditions : ∀ found ∈ statement.condition, (condition found).All holds)
    (filters : ∀ found ∈ statement.having, (condition found).All holds) :
    (Piece.statement statement).All holds := by
  refine all_of_children own fun child member => ?_
  rw [children, List.mem_append, List.mem_append] at member
  rcases member with (member | member) | member
  · obtain ⟨item, among, rfl⟩ := List.mem_map.mp member
    exact items item among
  · obtain ⟨found, among, rfl⟩ := List.mem_map.mp member
    exact conditions found (Option.mem_toList.mp among)
  · obtain ⟨found, among, rfl⟩ := List.mem_map.mp member
    exact filters found (Option.mem_toList.mp among)

variable {segment : Segment}

/-- As an expression a segment is what it holds or kept as its text. -/
theorem All.toExpression (all : (Piece.segment segment).All holds)
    (kept : ∀ span text, holds (.expression (.verbatim span text))) (source : Text) :
    (Piece.expression (segment.toExpression source)).All holds := by
  cases segment with
  | expression inner => exact all.child (List.mem_singleton.mpr rfl)
  | predicate inner => exact all_of_childless (kept _ _) rfl
  | logical span connective parts => exact all_of_childless (kept _ _) rfl

theorem All.chainParts (all : (Piece.segment segment).All holds) (connective : Connective) :
    ∀ part ∈ segment.chainParts connective, (Piece.segment part).All holds := by
  intro part member
  unfold Segment.chainParts at member
  split at member
  next span inner parts =>
    split at member
    · exact all.child (List.mem_map_of_mem member)
    · rw [List.mem_singleton.mp member]
      exact all
  next =>
    rw [List.mem_singleton.mp member]
    exact all

/-- A chain has the pieces of both its sides. -/
theorem All.join {left right : Segment} {connective : Connective} {span : Span}
    (first : (Piece.segment left).All holds) (second : (Piece.segment right).All holds)
    (own : holds (.segment (left.join connective right span))) :
    (Piece.segment (left.join connective right span)).All holds := by
  refine all_of_children own fun child member => ?_
  obtain ⟨part, among, rfl⟩ := List.mem_map.mp member
  rcases List.mem_append.mp among with among | among
  · exact first.chainParts connective part among
  · rw [List.mem_singleton.mp among]
    exact second

end Piece

namespace Segment

/-- Only a column is a column as an expression. -/
theorem toExpression_ne_column {segment : Segment} (other : segment.column? = none)
    (source : Text) (column : Column) : segment.toExpression source ≠ .column column := by
  intro same
  cases segment with
  | expression inner =>
      obtain rfl : inner = .column column := same
      cases other
  | predicate inner => cases same
  | logical span connective parts => cases same

end Segment

/-! ### What a node gives -/

namespace Annotate

variable {source : Text}

/-- The annotation of a node gives a piece of a result, from whichever progress on. A statement is
annotated by itself or inside another one. -/
inductive Gives (source : Text) : Grammar.TreeNode → Piece → Prop
  | expr {node : Grammar.Expr} {segment : Segment} {before after : Progress}
      (run : expr node source before = (.ok segment, after)) :
      Gives source (.expr node) (.segment segment)
  | primary {node : Grammar.BooleanPrimary} {segment : Segment} {before after : Progress}
      (run : booleanPrimary node source before = (.ok segment, after)) :
      Gives source (.primary node) (.segment segment)
  | predicate {node : Grammar.Predicate} {segment : Segment} {before after : Progress}
      (run : predicate node source before = (.ok segment, after)) :
      Gives source (.predicate node) (.segment segment)
  | bitExpr {node : Grammar.BitExpr} {segment : Segment} {before after : Progress}
      (run : bitExpr node source before = (.ok segment, after)) :
      Gives source (.bitExpr node) (.segment segment)
  | simpleExpr {node : Grammar.SimpleExpr} {segment : Segment} {before after : Progress}
      (run : simpleExpr node source before = (.ok (.segment segment), after)) :
      Gives source (.simpleExpr node) (.segment segment)
  | condition {node : Grammar.ConditionClause} {condition : Condition} {before after : Progress}
      (run : conditionClause? (some node) source before = (.ok (some condition), after)) :
      Gives source (.condition node) (.condition condition)
  | selectItem {node : Grammar.SelectItem} {item : SelectItem} {before after : Progress}
      (run : selectItem node source before = (.ok item, after)) :
      Gives source (.selectItem node) (.selectItem item)
  | select {node : Grammar.Select} {result : Statement} {before after : Progress}
      (run : select node source before = (.ok result, after)) :
      Gives source (.select node) (.statement result)
  | subquery {node : Grammar.Subquery} {result : Statement} {before after : Progress}
      (run : subquery node source before = (.ok result, after)) :
      Gives source (.subquery node) (.statement result)
  | statement {node : Grammar.Select} {result : Statement} {before after : Progress}
      (run : statement node source before = (.ok result, after)) :
      Gives source (.select node) (.statement result)

end Annotate

/-! ### Properties that an annotation upholds -/

/-- A property of the pieces that nodes give is upheld by every single step. What holds for a node
holds for those above it, plain pieces always have the property, and a literal, a chain and what a
column is compared with have it by the way they are made. -/
structure Upholds (source : Text) (holds : TreeNode → Piece → Prop) : Prop where
  above {root inner : TreeNode} {piece : Piece} :
    inner ∈ root.children → holds inner piece → holds root piece
  plain {root : TreeNode} {piece : Piece} : piece.IsPlain → holds root piece
  literal {node : Grammar.Literal} {value : Value} {before after : Progress} :
    Annotate.literal node source before = (.ok value, after) → value.isScalar →
      holds (.simpleExpr (.literal node)) (.expression (.literal node.span value))
  chain {root : TreeNode} {left : Segment} (connective : Connective) (right : Segment)
    (span : Span) :
    holds root (.segment left) → holds root (.segment (left.join connective right span))
  compared {root : TreeNode} {value : Expression} (sign : Text) :
    (∀ column, value ≠ .column column) → holds root (.comparand (.compared sign value))

/-- Every piece of a leaf has the property; a scalar is to become a literal. -/
def Leaf.All (holds : Piece → Prop) (span : Span) : Leaf → Prop
  | .segment found => (Piece.segment found).All holds
  | .value scalar => scalar.isScalar → holds (.expression (.literal span scalar))

namespace Upholds

variable {source : Text} {holds : TreeNode → Piece → Prop} {root inner : TreeNode} {piece : Piece}
  {progress : Progress} {span operator : Span}

section
variable (upholds : Upholds source holds)
include upholds

/-! ### Single pieces -/

theorem all_above (all : piece.All (holds inner)) (member : inner ∈ root.children) :
    piece.All (holds root) :=
  fun part has => upholds.above member (all part has)

theorem all_childless (plain : piece.IsPlain) (alone : piece.children = []) :
    piece.All (holds root) :=
  Piece.all_of_childless (upholds.plain plain) alone

theorem all_single {only : Piece} (plain : piece.IsPlain) (single : piece.children = [only])
    (all : only.All (holds root)) : piece.All (holds root) :=
  Piece.all_of_child (upholds.plain plain) single all

theorem all_expression {expression : Expression}
    (all : (Piece.expression expression).All (holds root)) :
    (Piece.segment (.expression expression)).All (holds root) :=
  upholds.all_single trivial rfl all

theorem all_verbatim {text : Text} :
    (Piece.segment (.expression (.verbatim span text))).All (holds root) :=
  upholds.all_expression (upholds.all_childless trivial rfl)

theorem all_subquery {statement : Statement}
    (all : (Piece.statement statement).All (holds root)) :
    (Piece.expression (.subquery span statement)).All (holds root) :=
  upholds.all_single trivial rfl all

theorem all_predicate {column : Column} {comparand : Comparand}
    (all : (Piece.comparand comparand).All (holds root)) :
    (Piece.segment (.predicate ⟨span, column, comparand⟩)).All (holds root) := by
  have inner : (Piece.predicate ⟨span, column, comparand⟩).All (holds root) :=
    upholds.all_single trivial rfl all
  exact upholds.all_single trivial rfl inner

theorem all_toExpression {segment : Segment} (all : (Piece.segment segment).All (holds root)) :
    (Piece.expression (segment.toExpression source)).All (holds root) :=
  all.toExpression (fun _ _ => upholds.plain trivial) source

/-! ### Single steps -/

theorem verbatimSegment :
    (Annotate.verbatimSegment span).Ensures source progress
      fun segment _ => (Piece.segment segment).All (holds root) := by
  rw [Annotator.ensures_verbatimSegment]
  exact upholds.all_verbatim

theorem keptPredicate :
    (Annotate.keptPredicate span).Ensures source progress
      fun segment _ => (Piece.segment segment).All (holds root) := by
  rw [Annotator.ensures_keptPredicate]
  exact upholds.all_verbatim

/-- The last step of a simple expression that is kept as text. -/
theorem verbatimLeaf {place : Span} :
    (return .segment (← Annotate.verbatimSegment span) : Annotator Leaf).Ensures source progress
      fun leaf _ => leaf.All (holds root) place := by
  rw [Annotator.ensures_bind, Annotator.ensures_verbatimSegment, Annotator.ensures_pure]
  exact upholds.all_verbatim

/-- Only a scalar is made a literal. -/
theorem leafSegment {leaf : Leaf} (all : leaf.All (holds root) span) :
    (Annotate.leafSegment span leaf).Ensures source progress
      fun segment _ => (Piece.segment segment).All (holds root) := by
  unfold Annotate.leafSegment
  split
  · rw [Annotator.ensures_pure]
    exact all
  · rw [Annotator.ensures_pure]
    exact upholds.all_expression (upholds.all_childless trivial rfl)
  · split
    next scalar =>
      rw [Annotator.ensures_pure]
      exact upholds.all_expression (Piece.all_of_childless (all scalar) rfl)
    next => exact upholds.verbatimSegment

theorem comparison {left right : Segment} (first : (Piece.segment left).All (holds root))
    (second : (Piece.segment right).All (holds root)) :
    (Annotate.comparison span operator left right).Ensures source progress
      fun segment _ => (Piece.segment segment).All (holds root) := by
  unfold Annotate.comparison
  split
  · rw [Annotator.ensures_bind, Annotator.ensures_report, Annotator.ensures_pure]
    exact first
  · split
    · rw [Annotator.ensures_pure]
      exact upholds.all_predicate (upholds.all_childless trivial rfl)
    next other =>
      simp only [Annotator.ensures_bind, Annotator.ensures_textAt, Annotator.ensures_read,
        Annotator.ensures_pure]
      have differs := Segment.toExpression_ne_column other source
      apply upholds.all_predicate
      exact Piece.all_of_child (upholds.compared _ differs) rfl (upholds.all_toExpression second)

theorem test {operand : Segment} {negation : Option Span} {comparand : Text → Comparand}
    (all : (Piece.comparand (comparand source)).All (holds root)) :
    (Annotate.test span operand negation comparand).Ensures source progress
      fun segment _ => (Piece.segment segment).All (holds root) := by
  unfold Annotate.test
  split
  · rw [Annotator.ensures_bind, Annotator.ensures_read, Annotator.ensures_pure]
    exact upholds.all_predicate all
  · exact upholds.keptPredicate

end

/-! ### Nodes -/

mutual

theorem expr (upholds : Upholds source holds) (node : Grammar.Expr) (progress : Progress) :
    (Annotate.expr node).Ensures source progress
      fun segment _ => (Piece.segment segment).All (holds (.expr node)) := by
  cases node with
  | primary inner =>
      rw [Annotate.expr]
      refine (upholds.booleanPrimary inner progress).mono fun segment _ all => ?_
      exact upholds.all_above all (by simp [TreeNode.children])
  | logical span left operator right =>
      rw [Annotate.expr, Annotator.ensures_bind]
      refine (upholds.expr left progress).mono fun leftSegment middle first => ?_
      rw [Annotator.ensures_bind]
      refine (upholds.expr right middle).mono fun rightSegment after second => ?_
      rw [Annotator.ensures_bind, Annotator.ensures_textAt]
      split
      next connective known =>
        have onLeft : (Piece.segment leftSegment).All
            (holds (.expr (.logical span left operator right))) :=
          upholds.all_above first (by simp [TreeNode.children])
        rw [Annotator.ensures_pure]
        apply onLeft.join
        · exact upholds.all_above second (by simp [TreeNode.children])
        · exact upholds.chain connective rightSegment span (onLeft _ .refl)
      next => exact Annotator.ensures_throw
  | xor span left right =>
      rw [Annotate.expr, Annotator.ensures_bind]
      refine (upholds.expr left progress).mono fun leftSegment middle first => ?_
      apply Annotator.ensures_drop
      intro _ after
      rw [Annotator.ensures_bind, Annotator.ensures_report, Annotator.ensures_pure]
      exact upholds.all_above first (by simp [TreeNode.children])
  | not | paren =>
      rw [Annotate.expr]
      refine (upholds.expr _ progress).mono fun segment _ all => ?_
      exact upholds.all_above all (by simp [TreeNode.children])

theorem booleanPrimary (upholds : Upholds source holds) (node : Grammar.BooleanPrimary)
    (progress : Progress) :
    (Annotate.booleanPrimary node).Ensures source progress
      fun segment _ => (Piece.segment segment).All (holds (.primary node)) := by
  cases node with
  | predicate inner =>
      rw [Annotate.booleanPrimary]
      refine (upholds.predicate inner progress).mono fun segment _ all => ?_
      exact upholds.all_above all (by simp [TreeNode.children])
  | isTest span operand negation value =>
      rw [Annotate.booleanPrimary]
      apply Annotator.ensures_drop
      intro _ middle
      rw [Annotator.ensures_bind, Annotator.ensures_report]
      exact upholds.verbatimSegment
  | comparison span left operator right =>
      rw [Annotate.booleanPrimary, Annotator.ensures_bind]
      refine (upholds.booleanPrimary left progress).mono fun leftSegment middle first => ?_
      rw [Annotator.ensures_bind]
      refine (upholds.predicate right middle).mono fun rightSegment after second => ?_
      apply upholds.comparison
      · exact upholds.all_above first (by simp [TreeNode.children])
      · exact upholds.all_above second (by simp [TreeNode.children])
  | quantified span left operator quantifier query =>
      rw [Annotate.booleanPrimary]
      apply Annotator.ensures_drop
      intro _ middle
      rw [Annotator.ensures_bind]
      refine (upholds.subquery query middle).mono fun statement after all => ?_
      rw [Annotator.ensures_pure]
      apply upholds.all_expression
      apply upholds.all_subquery
      exact upholds.all_above all (by simp [TreeNode.children])

theorem predicate (upholds : Upholds source holds) (node : Grammar.Predicate)
    (progress : Progress) :
    (Annotate.predicate node).Ensures source progress
      fun segment _ => (Piece.segment segment).All (holds (.predicate node)) := by
  cases node with
  | bitExpr operand =>
      rw [Annotate.predicate]
      refine (upholds.bitExpr operand progress).mono fun segment _ all => ?_
      exact upholds.all_above all (by simp [TreeNode.children])
  | inSubquery span operand negation query =>
      rw [Annotate.predicate]
      apply Annotator.ensures_drop
      intro _ middle
      rw [Annotator.ensures_bind]
      refine (upholds.subquery query middle).mono fun statement after all => ?_
      apply upholds.test
      refine upholds.all_single trivial rfl (upholds.all_subquery ?_)
      exact upholds.all_above all (by simp [TreeNode.children])
  | inList span operand negation leftParen items rightParen =>
      rw [Annotate.predicate]
      apply Annotator.ensures_drop
      intro _ middle
      rw [Annotator.ensures_bind]
      refine (upholds.exprs items middle).mono fun segments after all => ?_
      apply upholds.test
      refine Piece.all_of_children (upholds.plain trivial) fun child member => ?_
      obtain ⟨candidate, among, rfl⟩ := List.mem_map.mp member
      obtain ⟨segment, found, rfl⟩ := List.mem_map.mp among
      obtain ⟨item, isItem, all⟩ := all segment found
      apply upholds.all_toExpression
      exact upholds.all_above all (by simp [TreeNode.children, isItem])
  | between span operand negation lower upper =>
      rw [Annotate.predicate]
      apply Annotator.ensures_drop
      intro _ middle
      rw [Annotator.ensures_bind]
      refine (upholds.bitExpr lower middle).mono fun lowerSegment next first => ?_
      rw [Annotator.ensures_bind]
      refine (upholds.predicate upper next).mono fun upperSegment after second => ?_
      apply upholds.test
      refine Piece.all_of_children (upholds.plain trivial) fun child member => ?_
      rcases List.mem_cons.mp member with rfl | member
      · apply upholds.all_toExpression
        exact upholds.all_above first (by simp [TreeNode.children])
      · rw [List.mem_singleton.mp member]
        apply upholds.all_toExpression
        exact upholds.all_above second (by simp [TreeNode.children])
  | like span operand negation pattern escape =>
      rw [Annotate.predicate]
      apply Annotator.ensures_drop
      intro _ _
      apply Annotator.ensures_drop
      intro _ _
      apply Annotator.ensures_drop
      intro _ _
      exact upholds.keptPredicate

theorem bitExpr (upholds : Upholds source holds) (node : Grammar.BitExpr) (progress : Progress) :
    (Annotate.bitExpr node).Ensures source progress
      fun segment _ => (Piece.segment segment).All (holds (.bitExpr node)) := by
  cases node with
  | simple operand =>
      rw [Annotate.bitExpr, Annotator.ensures_bind]
      refine (upholds.simpleExpr operand progress).mono fun leaf after all => ?_
      refine (upholds.leafSegment all).mono fun segment _ all => ?_
      exact upholds.all_above all (by simp [TreeNode.children])
  | binary span left operator right =>
      rw [Annotate.bitExpr]
      apply Annotator.ensures_drop
      intro _ _
      apply Annotator.ensures_drop
      intro _ _
      exact upholds.verbatimSegment

theorem simpleExpr (upholds : Upholds source holds) (node : Grammar.SimpleExpr)
    (progress : Progress) :
    (Annotate.simpleExpr node).Ensures source progress
      fun leaf _ => leaf.All (holds (.simpleExpr node)) node.span := by
  cases node with
  | subquery span word query =>
      rw [Annotate.simpleExpr, Annotator.ensures_bind]
      refine (upholds.subquery query progress).mono fun statement after all => ?_
      rw [Annotator.ensures_pure]
      apply upholds.all_expression
      apply upholds.all_subquery
      exact upholds.all_above all (by simp [TreeNode.children])
  | marker =>
      rw [Annotate.simpleExpr]
      apply Annotator.ensures_drop
      intro _ _
      rw [Annotator.ensures_pure]
      exact fun scalar => absurd scalar Bool.false_ne_true
  | literal node =>
      rw [Annotate.simpleExpr, Annotator.ensures_bind]
      intro value after run
      rw [Annotator.ensures_pure]
      exact upholds.literal run
  | call | column =>
      rw [Annotate.simpleExpr]
      apply Annotator.ensures_drop
      intro _ _
      rw [Annotator.ensures_pure]
      exact upholds.all_expression (upholds.all_childless trivial rfl)
  | unary | row =>
      rw [Annotate.simpleExpr]
      apply Annotator.ensures_drop
      intro _ _
      exact upholds.verbatimLeaf
  | caseOf span operand branches otherwise =>
      rw [Annotate.simpleExpr]
      apply Annotator.ensures_drop
      intro _ _
      apply Annotator.ensures_drop
      intro _ _
      apply Annotator.ensures_drop
      intro _ _
      exact upholds.verbatimLeaf

theorem exprs (upholds : Upholds source holds) (nodes : List Grammar.Expr) (progress : Progress) :
    (Annotate.exprs nodes).Ensures source progress fun segments _ =>
      ∀ segment ∈ segments, ∃ node ∈ nodes, (Piece.segment segment).All (holds (.expr node)) := by
  cases nodes with
  | nil =>
      rw [Annotate.exprs, Annotator.ensures_pure]
      exact List.forall_mem_nil _
  | cons first rest =>
      rw [Annotate.exprs, Annotator.ensures_bind]
      refine (upholds.expr first progress).mono fun segment middle here => ?_
      rw [Annotator.ensures_bind]
      refine (upholds.exprs rest middle).mono fun segments after later => ?_
      rw [Annotator.ensures_pure, List.forall_mem_cons]
      refine ⟨⟨first, List.mem_cons_self, here⟩, fun other member => ?_⟩
      obtain ⟨node, among, all⟩ := later other member
      exact ⟨node, List.mem_cons_of_mem _ among, all⟩

theorem conditionClause (upholds : Upholds source holds) (clause : Option Grammar.ConditionClause)
    (progress : Progress) :
    (Annotate.conditionClause? clause).Ensures source progress fun condition _ =>
      ∀ found ∈ condition, ∃ node ∈ clause,
        (Piece.condition found).All (holds (.condition node)) := by
  cases clause with
  | none =>
      rw [Annotate.conditionClause?, Annotator.ensures_pure]
      exact fun _ member => absurd member (Option.not_mem_none _)
  | some clause =>
      obtain ⟨span, node⟩ := clause
      rw [Annotate.conditionClause?, Annotator.ensures_bind]
      refine (upholds.expr node progress).mono fun segment after all => ?_
      rw [Annotator.ensures_pure]
      rintro found ⟨⟩
      refine ⟨_, rfl, upholds.all_single trivial rfl ?_⟩
      exact upholds.all_above all (by simp [TreeNode.children])

theorem selectItem (upholds : Upholds source holds) (node : Grammar.SelectItem)
    (progress : Progress) :
    (Annotate.selectItem node).Ensures source progress
      fun item _ => (Piece.selectItem item).All (holds (.selectItem node)) := by
  cases node with
  | shorthand span =>
      rw [Annotate.selectItem, Annotator.ensures_pure]
      exact upholds.all_childless trivial rfl
  | qualifiedShorthand span owner =>
      rw [Annotate.selectItem]
      apply Annotator.ensures_drop
      intro _ _
      rw [Annotator.ensures_pure]
      exact upholds.all_childless trivial rfl
  | expr span node itemLabel =>
      rw [Annotate.selectItem, Annotator.ensures_bind]
      refine (upholds.expr node progress).mono fun segment after all => ?_
      apply Annotator.ensures_drop
      intro _ _
      rw [Annotator.ensures_pure]
      refine upholds.all_single trivial rfl ?_
      exact upholds.all_above all (by simp [TreeNode.children])

theorem selectItems (upholds : Upholds source holds) (nodes : List Grammar.SelectItem)
    (progress : Progress) :
    (Annotate.selectItems nodes).Ensures source progress fun items _ =>
      ∀ item ∈ items, ∃ node ∈ nodes,
        (Piece.selectItem item).All (holds (.selectItem node)) := by
  cases nodes with
  | nil =>
      rw [Annotate.selectItems, Annotator.ensures_pure]
      exact List.forall_mem_nil _
  | cons first rest =>
      rw [Annotate.selectItems, Annotator.ensures_bind]
      refine (upholds.selectItem first progress).mono fun item middle here => ?_
      rw [Annotator.ensures_bind]
      refine (upholds.selectItems rest middle).mono fun items after later => ?_
      rw [Annotator.ensures_pure, List.forall_mem_cons]
      refine ⟨⟨first, List.mem_cons_self, here⟩, fun other member => ?_⟩
      obtain ⟨node, among, all⟩ := later other member
      exact ⟨node, List.mem_cons_of_mem _ among, all⟩

theorem select (upholds : Upholds source holds) (node : Grammar.Select) (progress : Progress) :
    (Annotate.select node).Ensures source progress
      fun statement _ => (Piece.statement statement).All (holds (.select node)) := by
  obtain ⟨span, distinct, ⟨listSpan, nodes⟩, tableList, where_, grouping, having, ordering⟩ := node
  rw [Annotate.select, Annotator.ensures_bind]
  refine (upholds.selectItems nodes progress).mono fun items _ listed => ?_
  apply Annotator.ensures_drop
  intro tables next
  rw [Annotator.ensures_bind]
  refine (upholds.conditionClause where_ next).mono fun condition _ first => ?_
  apply Annotator.ensures_drop
  intro groups next
  rw [Annotator.ensures_bind]
  refine (upholds.conditionClause having next).mono fun filter _ second => ?_
  apply Annotator.ensures_drop
  intro orders next
  rw [Annotator.ensures_bind, Annotator.ensures_get, Annotator.ensures_pure]
  apply Piece.all_statement (upholds.plain trivial)
  · intro item member
    obtain ⟨node, among, all⟩ := listed item member
    have inList : (Piece.selectItem item).All (holds (.selectList ⟨listSpan, nodes⟩)) :=
      upholds.all_above all (List.mem_map_of_mem among)
    exact upholds.all_above inList (by simp [TreeNode.children])
  · intro found member
    obtain ⟨node, among, all⟩ := first found member
    exact upholds.all_above all (by simp [TreeNode.children, Option.mem_def.mp among])
  · intro found member
    obtain ⟨node, among, all⟩ := second found member
    exact upholds.all_above all (by simp [TreeNode.children, Option.mem_def.mp among])

theorem subquery (upholds : Upholds source holds) (node : Grammar.Subquery) (progress : Progress) :
    (Annotate.subquery node).Ensures source progress
      fun statement _ => (Piece.statement statement).All (holds (.subquery node)) := by
  obtain ⟨span, leftParen, child, rightParen⟩ := node
  rw [Annotate.subquery, Annotator.ensures_bind, Annotator.ensures_report]
  refine (upholds.select child _).mono fun statement _ all => ?_
  exact upholds.all_above all (by simp [TreeNode.children])

end

theorem statement (upholds : Upholds source holds) (node : Grammar.Select) (progress : Progress) :
    (Annotate.statement node).Ensures source progress
      fun statement _ => (Piece.statement statement).All (holds (.select node)) := by
  rw [Annotate.statement]
  apply Annotator.ensures_drop
  intro _ _
  apply Annotator.ensures_drop
  intro _ middle
  rw [Annotator.ensures_bind]
  refine (upholds.select node middle).mono fun result after all => ?_
  rw [Annotator.ensures_bind, Annotator.ensures_report, Annotator.ensures_pure]
  exact all

/-- Whatever a node gives, every piece of it has the property. -/
theorem all {node : TreeNode} (upholds : Upholds source holds)
    (gives : Annotate.Gives source node piece) :
    piece.All (holds node) := by
  cases gives with
  | expr run => exact upholds.expr _ _ _ _ run
  | primary run => exact upholds.booleanPrimary _ _ _ _ run
  | predicate run => exact upholds.predicate _ _ _ _ run
  | bitExpr run => exact upholds.bitExpr _ _ _ _ run
  | simpleExpr run => exact upholds.simpleExpr _ _ _ _ run
  | condition run =>
      obtain ⟨_, ⟨⟩, all⟩ := upholds.conditionClause _ _ _ _ run _ rfl
      exact all
  | selectItem run => exact upholds.selectItem _ _ _ _ run
  | select run => exact upholds.select _ _ _ _ run
  | subquery run => exact upholds.subquery _ _ _ _ run
  | statement run => exact upholds.statement _ _ _ _ run

end Upholds

end AnnotatedSql
