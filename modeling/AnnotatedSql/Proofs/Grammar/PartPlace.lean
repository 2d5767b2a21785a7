/-
This file shows where the parts of a derived tree lie: every span in it is that of a token or of a
stretch of tokens, and the order items follow each other as their tokens do.
-/

import AnnotatedSql.Proofs.Grammar.Part
import AnnotatedSql.Proofs.Grammar.Stretch

namespace AnnotatedSql.Grammar

variable {source : Text} {quantifiable : TokenKind → Bool} {node : Node}
  {tokens others : List Token} {token : Token} {parts further : List Part} {part : Part}

/-! ### Spans of tokens and of stretches -/

/-- The span is that of one of the tokens, or covers some that follow each other. -/
def Marks (tokens : List Token) (span : Span) : Prop :=
  (∃ token ∈ tokens, span = token.span) ∨
    ∃ inner, inner ≠ [] ∧ inner <:+: tokens ∧ span = cover inner

theorem Marks.mono {span : Span} (marks : Marks tokens span) (infixed : tokens <:+: others) :
    Marks others span := by
  rcases marks with ⟨token, member, same⟩ | ⟨inner, nonempty, within, same⟩
  · exact .inl ⟨token, infixed.subset member, same⟩
  · exact .inr ⟨inner, nonempty, within.trans infixed, same⟩

/-- A span over tokens that are laid out in a source lies in this source and inside the tokens. -/
theorem Marks.fits {span : Span} (marks : Marks tokens span) (laid : Laid source tokens) :
    span.Fits source ∧ Inside tokens span := by
  rcases marks with ⟨token, member, rfl⟩ | ⟨inner, nonempty, within, rfl⟩
  · have stands := laid.stands token member
    exact ⟨Span.fits_of_boundaries stands.extent stands.starts stands.stops, inside_of_mem member⟩
  · have inner := laid.fewer within.sublist
    exact ⟨inner.cover_fits nonempty, (inner.inside_cover nonempty).mono fun _ => within.mem⟩

/-- All spans among the parts are those of tokens or of stretches. -/
def Traced (tokens : List Token) (parts : List Part) : Prop :=
  ∀ span, .span span ∈ parts → Marks tokens span

@[simp] theorem traced_nil : Traced tokens [] := nofun

@[simp] theorem traced_append :
    Traced tokens (parts ++ further) ↔ Traced tokens parts ∧ Traced tokens further := by
  simp [Traced, or_imp, forall_and]

@[simp] theorem traced_span {span : Span} :
    Traced tokens (.span span :: parts) ↔ Marks tokens span ∧ Traced tokens parts := by
  simp [Traced, or_imp, forall_and]

@[simp] theorem traced_item {item : OrderItem} :
    Traced tokens (.item item :: parts) ↔ Traced tokens parts := by
  simp [Traced]

@[simp] theorem traced_select {select : Select} :
    Traced tokens (.select select :: parts) ↔ Traced tokens parts := by
  simp [Traced]

@[grind ←] theorem Traced.left (traced : Traced tokens parts) : Traced (tokens ++ others) parts :=
  fun span member => (traced span member).mono (List.prefix_append tokens others).isInfix

@[grind ←] theorem Traced.right (traced : Traced others parts) : Traced (tokens ++ others) parts :=
  fun span member => (traced span member).mono (List.suffix_append tokens others).isInfix

@[grind ←] theorem Traced.cons (traced : Traced tokens parts) : Traced (token :: tokens) parts :=
  fun span member => (traced span member).mono (List.suffix_cons token tokens).isInfix

@[grind .] theorem marks_head : Marks (token :: tokens) token.span :=
  .inl ⟨token, List.mem_cons_self, rfl⟩

@[grind ←] theorem Marks.left {span : Span} (marks : Marks tokens span) :
    Marks (tokens ++ others) span := marks.mono (List.prefix_append tokens others).isInfix

@[grind ←] theorem Marks.right {span : Span} (marks : Marks others span) :
    Marks (tokens ++ others) span := marks.mono (List.suffix_append tokens others).isInfix

@[grind ←] theorem Marks.cons {span : Span} (marks : Marks tokens span) :
    Marks (token :: tokens) span := marks.mono (List.suffix_cons token tokens).isInfix

@[grind .] theorem marks_cover (nonempty : tokens ≠ []) : Marks tokens (cover tokens) :=
  .inr ⟨tokens, nonempty, List.infix_rfl, rfl⟩

/-! ### Phrases without expressions -/

@[grind .] theorem traced_name : Traced (token :: tokens) (Identifier.ofToken token).parts := by
  unfold Identifier.ofToken Identifier.parts
  cases token.kind.keyword? <;> simp [marks_head]

@[grind .] theorem traced_label : Traced (token :: tokens) (Label.ofToken token).parts := by
  rw [Label.parts, traced_span]
  exact ⟨marks_head, traced_name⟩

@[grind →] theorem QualifiedName.Derives.traced {name : QualifiedName}
    (derived : name.Derives tokens) : Traced tokens name.parts := by
  cases derived <;> simp [QualifiedName.parts, Label.partsIn] <;> grind

@[grind →] theorem Literal.Derives.traced {literal : Literal} (derived : literal.Derives tokens) :
    Traced tokens literal.parts := by
  cases derived <;> simp [Literal.parts, Literal.empty] <;> grind

@[grind →] theorem Flag.traced {word : Keyword} {found : Option Span}
    (flag : Flag word found tokens) : Traced tokens (Part.ofSpan? found) := by
  cases flag <;> simp [marks_head]

@[grind →] theorem DataType.Derives.traced {target : DataType} (derived : target.Derives tokens) :
    Traced tokens target.parts := by
  cases derived <;> simp [DataType.parts] <;> grind [List.append_eq_nil_iff]

@[grind →] theorem ItemLabel.traced {found : Option Label} (itemLabel : ItemLabel found tokens) :
    Traced tokens (Label.partsIn found) := by
  cases itemLabel <;> simp [Label.partsIn] <;> grind

theorem traced_names {names : List QualifiedName}
    (list : CommaList QualifiedName.Derives names tokens) :
    Traced tokens (QualifiedName.partsAmong names) := by
  induction list with
  | single first =>
      rw [QualifiedName.partsAmong, QualifiedName.partsAmong, List.append_nil]
      exact first.traced
  | cons first comma _ ih =>
      rw [QualifiedName.partsAmong, traced_append]
      exact ⟨first.traced.left, ih.cons.right⟩

@[grind →] theorem Tables.traced {found : Option NameList} (tables : Tables found tokens) :
    Traced tokens (NameList.partsIn found) := by
  cases tables with
  | absent => exact traced_nil
  | present word names =>
      have nonempty := names.nonempty fun _ _ derived => derived.nonempty
      rw [NameList.partsIn, traced_span]
      exact ⟨(marks_cover nonempty).cons, (traced_names names).cons⟩

@[grind →] theorem DirectionWord.traced_ascending {ascending descending : Option Span}
    (direction : DirectionWord ascending descending tokens) :
    Traced tokens (Part.ofSpan? ascending) := by
  cases direction <;> simp [marks_head]

@[grind →] theorem DirectionWord.traced_descending {ascending descending : Option Span}
    (direction : DirectionWord ascending descending tokens) :
    Traced tokens (Part.ofSpan? descending) := by
  cases direction <;> simp [marks_head]

@[grind →] theorem DistinctWord.traced {distinct : Option Span}
    (word : DistinctWord distinct tokens) : Traced tokens (Part.ofSpan? distinct) := by
  cases word <;> simp [marks_head]

/-! ### All phrases -/

theorem Subquery.traced_span {node : Subquery} (traced : Traced tokens node.parts) :
    Marks tokens node.span := by
  obtain ⟨span, leftParen, select, rightParen⟩ := node
  rw [Subquery.parts] at traced
  exact traced _ List.mem_cons_self

theorem AggregationCall.traced_span {node : AggregationCall} (traced : Traced tokens node.parts) :
    Marks tokens node.span := by
  obtain ⟨span, name, leftParen, distinct, arguments, rightParen⟩ := node
  rw [AggregationCall.parts] at traced
  exact traced _ List.mem_cons_self

theorem SpecialCall.traced_span {node : SpecialCall} (traced : Traced tokens node.parts) :
    Marks tokens node.span := by
  cases node with
  | cast call =>
      obtain ⟨span, operand, target⟩ := call
      rw [SpecialCall.parts, CastCall.parts] at traced
      exact traced _ List.mem_cons_self
  | _ =>
      rw [SpecialCall.parts] at traced
      exact traced _ List.mem_cons_self

theorem RegularCall.traced_span {node : RegularCall} (traced : Traced tokens node.parts) :
    Marks tokens node.span := by
  obtain ⟨span, name, arguments, asterisk⟩ := node
  rw [RegularCall.parts] at traced
  exact traced _ List.mem_cons_self

/-- The number of an order item is a literal, whose span is its own. -/
theorem Literal.Derives.marks_number {literal : Literal} {value : Span}
    (derived : literal.Derives tokens) (found : literal.number = some value) :
    Marks tokens value := by
  have traced := derived.traced
  rw [Literal.parts, found] at traced
  exact traced value (by simp)

/-- The spans in a derived tree are those of its tokens and of stretches of them. -/
theorem Derives.traced (derived : Derives quantifiable node tokens) : Traced tokens node.parts := by
  induction derived with
  | orderNumber derived found =>
      have marks := derived.marks_number found
      simpa [Node.parts, QualifiedName.partsIn, Expr.partsIn] using marks
  | orderColumn derived =>
      have traced := derived.traced
      simpa [Node.parts, QualifiedName.partsIn, Expr.partsIn] using traced
  | select word distinct derived tables _ _ _ _ items condition grouping having ordering =>
      have listed := marks_cover (derived.nonempty rfl)
      simp only [Node.parts, Select.parts, traced_append, traced_span] at *
      refine ⟨marks_cover (by simp), ?_, ordering.right⟩
      refine ⟨?_, having.right.left⟩
      refine ⟨?_, grouping.right.left.left⟩
      refine ⟨?_, condition.right.left.left.left⟩
      refine ⟨?_, tables.traced.right.left.left.left.left⟩
      exact ⟨distinct.traced.cons.left.left.left.left.left.left,
        listed.right.left.left.left.left.left, items.right.left.left.left.left.left⟩
  | _ =>
      simp only [Node.parts, Expr.parts, Expr.partsIn, Expr.partsAmong, BooleanPrimary.parts,
        Predicate.parts, BitExpr.parts, SimpleExpr.parts, SimpleExpr.partsIn,
        CaseBranch.partsAmong, FunctionCall.parts, AggregationCall.parts, AggregationCall.partsIn,
        AggregationArgument.partsAmong, SpecialCall.parts, SpecialCall.partsIn, CastCall.parts,
        RegularCall.parts, RegularCall.partsIn, OrderItem.parts, OrderItem.partsAmong,
        OrderClause.partsIn, ConditionClause.partsIn, SelectItem.parts, SelectItem.partsAmong,
        Subquery.parts, QualifiedName.partsIn, Expr.partsAmong_append,
        Expr.partsAmong_toList, traced_append, traced_span, traced_item, traced_select, traced_nil,
        and_true, true_and, Part.ofSpan_none, Part.ofSpan_some] at *
      all_goals grind [List.append_eq_nil_iff, Subquery.traced_span, AggregationCall.traced_span,
        SpecialCall.traced_span, RegularCall.traced_span, Derives.nonempty, Node.isOptional]

/-! ### Numbers in the order of the source -/

/-- The spans start where some of the tokens start, in the same order. -/
def Ordered (tokens : List Token) (spans : List Span) : Prop :=
  (spans.map fun span => span.start).Sublist (tokens.map fun token => token.span.start)

section
variable {spans others : List Span} {after : List Token}

@[grind .] theorem ordered_nil : Ordered tokens [] := List.nil_sublist _

@[grind ←] theorem Ordered.cons (ordered : Ordered tokens spans) :
    Ordered (token :: tokens) spans :=
  List.Sublist.cons _ ordered

@[grind ←] theorem Ordered.append (first : Ordered tokens spans) (second : Ordered after others) :
    Ordered (tokens ++ after) (spans ++ others) := by
  rw [Ordered, List.map_append, List.map_append]
  exact List.Sublist.append first second

@[grind ←] theorem Ordered.left (ordered : Ordered tokens spans) :
    Ordered (tokens ++ after) spans := by
  have rest : Ordered after [] := ordered_nil
  have both := ordered.append rest
  rw [List.append_nil] at both
  exact both

@[grind ←] theorem Ordered.right (ordered : Ordered after spans) :
    Ordered (tokens ++ after) spans := by
  have front : Ordered tokens [] := ordered_nil
  exact front.append ordered

end

/-- A number starts where the literal that it comes from starts. -/
theorem Literal.Derives.ordered_number {literal : Literal} {value : Span}
    (derived : literal.Derives tokens) (found : literal.number = some value) :
    Ordered tokens [value] := by
  cases derived <;> cases found <;> simp [Ordered, cover, startOf]

/-- The numbers in a node, where one that stands alone is the target of an order item. -/
def Node.numbers : Node → List Span
  | .orderTarget _ number inner => number.toList ++ Grammar.numbers (Expr.partsIn inner)
  | node => Grammar.numbers node.parts

/-- The numbers of order items come in the order of the source. -/
theorem Derives.ordered (derived : Derives quantifiable node tokens) :
    Ordered tokens node.numbers := by
  induction derived with
  | orderNumber derived found =>
      simpa [Node.numbers, Expr.partsIn] using derived.ordered_number found
  | select _ _ _ _ _ _ _ _ items condition grouping having ordering =>
      simp only [Node.numbers, Node.parts, Select.parts, numbers_append, numbers_span,
        numbers_ofSpan, NameList.numbers_partsIn, List.nil_append, List.append_nil] at *
      exact ((((items.right.left).append condition).append grouping).append having).append ordering
  | _ =>
      simp only [Node.numbers, Node.parts, Expr.parts, Expr.partsIn, Expr.partsAmong,
        BooleanPrimary.parts, Predicate.parts, BitExpr.parts, SimpleExpr.parts, SimpleExpr.partsIn,
        CaseBranch.partsAmong, FunctionCall.parts, AggregationCall.parts, AggregationCall.partsIn,
        AggregationArgument.partsAmong, SpecialCall.parts, SpecialCall.partsIn, CastCall.parts,
        RegularCall.parts, RegularCall.partsIn, OrderItem.parts, OrderItem.partsAmong,
        OrderClause.partsIn, ConditionClause.partsIn, SelectItem.parts, SelectItem.partsAmong,
        Subquery.parts, Expr.partsAmong_append, Expr.partsAmong_toList, numbers_append,
        numbers_span, numbers_select, numbers_item, numbers_nil, numbers_ofSpan,
        Identifier.numbers_parts, Label.numbers_parts, Label.numbers_partsIn,
        QualifiedName.numbers_parts, QualifiedName.numbers_partsIn, Literal.numbers_parts,
        DataType.numbers_parts, List.append_nil, List.nil_append, Option.toList_none] at *
      all_goals grind

end AnnotatedSql.Grammar
