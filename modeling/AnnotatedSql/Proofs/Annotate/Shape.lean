/-
This file shows the shape of what an annotation gives: what stands as a literal, how chains of
connectives are built up, and where a column never stands by itself.
-/

import AnnotatedSql.Proofs.Annotate.Logic
import AnnotatedSql.Proofs.Annotate.Piece

namespace AnnotatedSql

/-! ### Pieces in shape -/

namespace Piece

/-- The shape of a piece by itself: a literal holds a scalar, a chain has two parts or more of which
the first is no chain of the same connective, and what a column is compared with is an expression
other than a column. -/
def InShape : Piece → Prop
  | .expression (.literal _ value) => value.isScalar
  | .segment (.logical _ connective parts) =>
      2 ≤ parts.length ∧ ∀ span inner, parts.head? ≠ some (.logical span connective inner)
  | .comparand (.compared _ value) => ∀ column, value ≠ .column column
  | _ => True

/-- Every piece of the result is in shape. -/
def WellShaped (whole : Piece) : Prop := ∀ part, whole.Has part → part.InShape

theorem inShape_of_isPlain {piece : Piece} (plain : piece.IsPlain) : piece.InShape := by
  unfold InShape
  split
  · exact absurd plain False.elim
  · exact absurd plain False.elim
  · exact absurd plain False.elim
  · exact trivial

end Piece

namespace Segment

/-- Taken apart into a chain of a connective, a segment has parts, and they do not begin with a
chain of that connective. -/
theorem chainParts_inShape {segment : Segment} (inShape : (Piece.segment segment).InShape)
    (connective : Connective) :
    segment.chainParts connective ≠ [] ∧ ∀ span inner,
      (segment.chainParts connective).head? ≠ some (.logical span connective inner) := by
  cases segment with
  | expression inner => simp [chainParts]
  | predicate inner => simp [chainParts]
  | logical place inner parts =>
      by_cases same : inner = connective
      · subst same
        rw [chainParts, if_pos rfl]
        have several := inShape.1
        refine ⟨?_, inShape.2⟩
        rintro rfl
        exact absurd several (by decide)
      · rw [chainParts, if_neg same]
        refine ⟨List.cons_ne_nil _ _, ?_⟩
        intro span others found
        cases found
        exact same rfl

/-- What is joined to a segment in shape makes up a chain in shape. -/
theorem join_inShape {left : Segment} (inShape : (Piece.segment left).InShape)
    (connective : Connective) (right : Segment) (span : Span) :
    (Piece.segment (left.join connective right span)).InShape := by
  obtain ⟨several, other⟩ := chainParts_inShape inShape connective
  rw [join]
  constructor
  · have := List.length_pos_iff.mpr several
    rw [List.length_append, List.length_singleton]
    omega
  · obtain ⟨part, parts, cut⟩ := List.exists_cons_of_ne_nil several
    rw [cut] at other ⊢
    exact other

end Segment

/-- Every step gives pieces in shape, for whichever node. -/
theorem upholds_inShape (source : Text) : Upholds source fun _ => Piece.InShape where
  above _ inShape := inShape
  plain := Piece.inShape_of_isPlain
  literal _ scalar := scalar
  chain connective right span inShape := Segment.join_inShape inShape connective right span
  compared _ differs := differs

namespace Annotate

variable {source : Text} {span : Span}

/-! ### Where chains come from -/

/-- A connection by AND or OR is left where NOT, parentheses and the right sides of XOR are left
out. -/
inductive ReachesLogical : Grammar.Expr → Prop
  | logical (span : Span) (left : Grammar.Expr) (operator : Span) (right : Grammar.Expr) :
      ReachesLogical (.logical span left operator right)
  | xor {left : Grammar.Expr} (span : Span) (right : Grammar.Expr)
      (reaches : ReachesLogical left) : ReachesLogical (.xor span left right)
  | not {operand : Grammar.Expr} (span operator : Span) (reaches : ReachesLogical operand) :
      ReachesLogical (.not span operator operand)
  | paren {inner : Grammar.Expr} (span : Span) (reaches : ReachesLogical inner) :
      ReachesLogical (.paren span inner)

theorem Unchained.ne_logical {segment : Segment} (unchained : Unchained segment) (span : Span)
    (connective : Connective) (parts : List Segment) :
    segment ≠ .logical span connective parts := by
  rintro rfl
  rw [Unchained, Segment.formula] at unchained
  cases unchained

theorem expr_unchained_or_reaches (node : Grammar.Expr) (progress : Progress) :
    (expr node).Ensures source progress
      fun segment _ => Unchained segment ∨ ReachesLogical node := by
  induction node using Grammar.Expr.leaves.induct generalizing progress with
  | case1 inner =>
      rw [expr]
      exact (booleanPrimary_unchained inner progress).mono fun _ _ unchained => .inl unchained
  | case2 span left operator right =>
      exact Annotator.ensures_of_forall fun _ _ => .inr (.logical span left operator right)
  | case3 span left right onLeft _ =>
      rw [expr, Annotator.ensures_bind]
      refine (onLeft progress).mono fun segment middle found => ?_
      apply Annotator.ensures_drop
      intro _ after
      rw [Annotator.ensures_bind, Annotator.ensures_report, Annotator.ensures_pure]
      exact found.imp_right (.xor span right)
  | case4 span operator inner onInner =>
      rw [expr]
      exact (onInner progress).mono fun _ _ found => found.imp_right (.not span operator)
  | case5 span inner onInner =>
      rw [expr]
      exact (onInner progress).mono fun _ _ found => found.imp_right (.paren span)

/-! ### Results -/

namespace Gives

variable {node : Grammar.TreeNode} {piece : Piece}

theorem expression_of_bitExpr {inner : Grammar.BitExpr}
    (gives : Gives source (.bitExpr inner) piece) :
    ∃ found, piece = .segment (.expression found) := by
  cases gives with
  | bitExpr run =>
      obtain ⟨found, rfl⟩ := bitExpr_expression _ _ _ run
      exact ⟨found, rfl⟩

/-- Only an expression gives a chain. -/
theorem reaches_of_logical {connective : Connective} {parts : List Segment}
    (gives : Gives source node (.segment (.logical span connective parts))) :
    ∃ inner, node = .expr inner ∧ ReachesLogical inner := by
  cases gives with
  | expr run =>
      rcases expr_unchained_or_reaches _ _ _ _ run with unchained | reaches
      · exact absurd rfl (unchained.ne_logical _ _ _)
      · exact ⟨_, rfl, reaches⟩
  | primary run => exact absurd rfl ((booleanPrimary_unchained _ _ _ _ run).ne_logical _ _ _)
  | predicate run => exact absurd rfl ((predicate_unchained _ _ _ run).ne_logical _ _ _)
  | bitExpr run => exact absurd rfl ((bitExpr_unchained _ _ _ run).ne_logical _ _ _)
  | simpleExpr run =>
      obtain ⟨found, same⟩ := simpleExpr_elementary _ _ _ run
      cases same

end Gives

/-- Whatever the annotation of a node gives, and however the node was made: each piece of it is in
shape, bit expressions give nothing but expressions, and a chain is given by an expression only, one
that leads to a connection by AND or OR through left sides of XOR, NOT and parentheses. -/
theorem results_in_shape (source : Text) (node : Grammar.TreeNode) (result : Piece)
    (gives : Gives source node result) :
    (∀ part, result.Has part → part.InShape) ∧
      (∀ inner, node = .bitExpr inner → ∃ found, result = .segment (.expression found)) ∧
      ∀ span connective parts, result = .segment (.logical span connective parts) →
        ∃ inner, node = .expr inner ∧ ReachesLogical inner := by
  refine ⟨(upholds_inShape source).all gives, ?_, ?_⟩
  · rintro inner rfl
    exact gives.expression_of_bitExpr
  · rintro span connective parts rfl
    exact gives.reaches_of_logical

/-- The expression `NOT (a = 'x' OR NULL)` with a second slot of its string set, as no text gives
it. -/
def negatedChoice : Grammar.Expr :=
  .not ⟨0, 20⟩ ⟨0, 2⟩ (.paren ⟨4, 20⟩ (.logical ⟨5, 19⟩
    (.primary (.comparison ⟨5, 11⟩
      (.predicate (.bitExpr (.simple (.column ⟨⟨5, 5⟩, none, ⟨⟨5, 5⟩, none⟩⟩)))) ⟨7, 7⟩
      (.bitExpr (.simple
        (.literal { Grammar.Literal.empty ⟨9, 11⟩ with string := some ⟨9, 11⟩, null := some ⟨9, 9⟩ })))))
    ⟨13, 14⟩
    (.primary (.predicate (.bitExpr (.simple
      (.literal { Grammar.Literal.empty ⟨16, 19⟩ with null := some ⟨16, 19⟩ })))))))

theorem results_in_shape_negated :
    ∃ first second,
      Gives "NOT (a = 'x' OR NULL)".toList (.expr negatedChoice)
          (.segment (.logical ⟨5, 19⟩ .or [first, second])) ∧
        (Piece.segment (.logical ⟨5, 19⟩ .or [first, second])).WellShaped ∧
        ReachesLogical negatedChoice := by
  have run : expr negatedChoice "NOT (a = 'x' OR NULL)".toList Progress.initial =
      (.ok (.logical ⟨5, 19⟩ .or
        [.predicate ⟨⟨5, 11⟩, ⟨⟨5, 5⟩, Name.ofText ['a'], none⟩,
          .compared ['='] (.literal ⟨9, 11⟩ (.string ['x']))⟩,
        .expression (.verbatim ⟨16, 19⟩ "NULL".toList)]), Progress.initial) := by
    rfl
  have gives := Gives.expr run
  obtain ⟨inShape, _, leads⟩ := results_in_shape _ _ _ gives
  obtain ⟨inner, same, reaches⟩ := leads _ _ _ rfl
  obtain rfl := Grammar.TreeNode.expr.inj same
  exact ⟨_, _, gives, inShape, reaches⟩

end Annotate

end AnnotatedSql
