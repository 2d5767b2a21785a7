/-
This file carries annotated statements into another source text: to other offsets, with markers that
count on from another number, and with letters of another case.
-/

import AnnotatedSql.Annotate
import AnnotatedSql.Proofs.Grammar.Locality.Statement
import AnnotatedSql.Proofs.Text.LetterCase

namespace AnnotatedSql

/-- How a source text comes to stand in another one. -/
structure Change where
  /-- Where an offset comes to lie. -/
  move : Nat → Nat
  /-- The number of markers in front. -/
  add : Nat
  /-- How its letters are written. -/
  recasing : Recasing

variable (change : Change)

/-! ### Names, values and calls -/

def PlacedName.carry (placed : PlacedName) : PlacedName :=
  ⟨placed.span.relocate change.move, change.recasing.name placed.name⟩

def Column.carry (column : Column) : Column :=
  ⟨column.span.relocate change.move, change.recasing.name column.name,
    column.owner.map (PlacedName.carry change)⟩

def Table.carry (table : Table) : Table :=
  ⟨table.name.carry change, table.owner.map (PlacedName.carry change)⟩

def Value.carry : Value → Value
  | .string contents => .string (change.recasing.text contents)
  | .number text => .number (change.recasing.text text)
  | .boolean text => .boolean (change.recasing.text text)
  | .other text => .other (change.recasing.text text)
  | .name found => .name (change.recasing.name found)
  | .keyword text => .keyword (change.recasing.text text)
  | .marker index => .marker (index + change.add)

def AggregateUse.carry (use : AggregateUse) : AggregateUse :=
  ⟨use.span.relocate change.move, use.aggregate, change.move use.opening,
    use.distinct.map change.recasing.text⟩

def Call.carry : Call → Call
  | .aggregate use => .aggregate (use.carry change)
  | .verbatim span text => .verbatim (span.relocate change.move) (change.recasing.text text)

def OrderItem.carry : OrderItem → OrderItem
  | .column found direction => .column (found.carry change) direction
  | .index span position direction => .index (span.relocate change.move) position direction
  | .expression span text direction =>
      .expression (span.relocate change.move) (change.recasing.text text) direction

def OrderList.carry (list : OrderList) : OrderList :=
  ⟨list.span.relocate change.move, list.items.map (OrderItem.carry change)⟩

/-! ### Expressions and statements -/

mutual

def Expression.carry : Expression → Expression
  | .literal span value => .literal (span.relocate change.move) (value.carry change)
  | .marker span index => .marker (span.relocate change.move) (index + change.add)
  | .column column => .column (column.carry change)
  | .verbatim span text => .verbatim (span.relocate change.move) (change.recasing.text text)
  | .subquery span statement => .subquery (span.relocate change.move) statement.carry
  | .call call => .call (call.carry change)

def Expression.carryAmong : List Expression → List Expression
  | [] => []
  | first :: rest => first.carry :: Expression.carryAmong rest

def Comparand.carry : Comparand → Comparand
  | .compared operator expression =>
      .compared (change.recasing.text operator) expression.carry
  | .among left right candidates =>
      .among (left.relocate change.move) (right.relocate change.move)
        (Expression.carryAmong candidates)
  | .between lower upper => .between lower.carry upper.carry
  | .column column => .column (column.carry change)

def Predicate.carry : Predicate → Predicate
  | ⟨span, column, comparand⟩ =>
      ⟨span.relocate change.move, column.carry change, comparand.carry⟩

def Segment.carry : Segment → Segment
  | .expression inner => .expression inner.carry
  | .predicate inner => .predicate inner.carry
  | .logical span connective parts =>
      .logical (span.relocate change.move) connective (Segment.carryAmong parts)

def Segment.carryAmong : List Segment → List Segment
  | [] => []
  | first :: rest => first.carry :: Segment.carryAmong rest

def SelectItem.carry : SelectItem → SelectItem
  | .shorthand span owner =>
      .shorthand (span.relocate change.move) (owner.map (PlacedName.carry change))
  | .expression span segment itemLabel =>
      .expression (span.relocate change.move) segment.carry
        (itemLabel.map (PlacedName.carry change))

def SelectItem.carryAmong : List SelectItem → List SelectItem
  | [] => []
  | first :: rest => first.carry :: SelectItem.carryAmong rest

def Condition.carryIn : Option Condition → Option Condition
  | none => none
  | some ⟨span, segment⟩ => some ⟨span.relocate change.move, segment.carry⟩

def Statement.carry : Statement → Statement
  | ⟨span, ⟨listSpan, distinct, items⟩, tables, condition, grouping, having, ordering, markers⟩ =>
      ⟨span.relocate change.move,
        ⟨listSpan.relocate change.move, distinct, SelectItem.carryAmong items⟩,
        tables.map (Table.carry change), Condition.carryIn condition,
        grouping.map (OrderList.carry change), Condition.carryIn having,
        ordering.map (OrderList.carry change), markers + change.add⟩

end

/-! ### Failures -/

def AnnotationError.carry : AnnotationError → AnnotationError
  | .malformedLiteral span => .malformedLiteral (span.relocate change.move)
  | .structuralViolation rule span => .structuralViolation rule (span.relocate change.move)
  | .invalidOrdinal text span =>
      .invalidOrdinal (change.recasing.text text) (span.relocate change.move)

def Failure.carry : Failure → Failure
  | .unparsed error => .unparsed (error.relocate change.move)
  | .rejected error => .rejected (error.carry change)

/-! ### Reading what was carried -/

-- The functions above have one equation for each sort of value; they are set up here, all at once.
attribute [local simp] Expression.carry Expression.carryAmong Predicate.carry Segment.carry
  Segment.carryAmong

theorem Expression.carryAmong_eq (expressions : List Expression) :
    Expression.carryAmong change expressions = expressions.map (Expression.carry change) := by
  induction expressions with
  | nil => simp
  | cons first rest ih => simp [ih]

theorem Segment.carryAmong_eq (segments : List Segment) :
    Segment.carryAmong change segments = segments.map (Segment.carry change) := by
  induction segments with
  | nil => simp
  | cons first rest ih => simp [ih]

@[simp] theorem Value.isScalar_carry (value : Value) :
    (value.carry change).isScalar = value.isScalar := by
  cases value <;> rfl

@[simp] theorem Call.span_carry (call : Call) :
    (call.carry change).span = call.span.relocate change.move := by
  cases call <;> rfl

@[simp] theorem Expression.span_carry (expression : Expression) :
    (expression.carry change).span = expression.span.relocate change.move := by
  cases expression <;> simp [Expression.span, Column.carry]

@[simp] theorem Segment.span_carry (segment : Segment) :
    (segment.carry change).span = segment.span.relocate change.move := by
  cases segment with
  | expression inner => rw [Segment.carry, Segment.span, inner.span_carry, Segment.span]
  | predicate inner =>
      obtain ⟨_, _, _⟩ := inner
      rw [Segment.carry, Predicate.carry, Segment.span, Segment.span]
  | logical span connective parts => rw [Segment.carry, Segment.span, Segment.span]

@[simp] theorem Segment.column_carry (segment : Segment) :
    (segment.carry change).column? = segment.column?.map (Column.carry change) := by
  cases segment with
  | expression inner => cases inner <;> rw [Segment.carry, Expression.carry] <;> rfl
  | predicate inner => rw [Segment.carry]; rfl
  | logical span connective parts => rw [Segment.carry]; rfl

@[simp] theorem Segment.chainParts_carry (segment : Segment) (connective : Connective) :
    (segment.carry change).chainParts connective =
      (segment.chainParts connective).map (Segment.carry change) := by
  cases segment with
  | expression inner =>
      have alone (found : Expression) : chainParts connective (.expression found) =
          [.expression found] := by simp [chainParts]
      rw [Segment.carry, alone, alone, List.map_singleton, Segment.carry]
  | predicate inner =>
      have alone (found : Predicate) : chainParts connective (.predicate found) =
          [.predicate found] := by simp [chainParts]
      rw [Segment.carry, alone, alone, List.map_singleton, Segment.carry]
  | logical span found parts =>
      rw [Segment.carry, chainParts, chainParts]
      split
      · exact carryAmong_eq change parts
      · rw [List.map_singleton, Segment.carry]

@[simp] theorem Segment.join_carry (left right : Segment) (connective : Connective) (span : Span) :
    (left.carry change).join connective (right.carry change) (span.relocate change.move) =
      (left.join connective right span).carry change := by
  rw [join, join, Segment.carry, chainParts_carry, carryAmong_eq, List.map_append,
    List.map_singleton]

section
variable {whole part : Text}

/-- The text under the span has come to stand where the span is moved. -/
def Change.Shows (whole part : Text) (span : Span) : Prop :=
  (span.relocate change.move).text whole = change.recasing.text (span.text part)

/-- What is no expression is kept as its text. -/
theorem Segment.toExpression_of_ne {segment : Segment} (source : Text)
    (other : ∀ inner, segment ≠ .expression inner) :
    segment.toExpression source = .verbatim segment.span (segment.span.text source) := by
  cases segment with
  | expression inner => exact absurd rfl (other inner)
  | predicate inner => simp [toExpression]
  | logical span connective parts => simp [toExpression]

theorem Segment.toExpression_carry {segment : Segment}
    (shows : change.Shows whole part segment.span) :
    (segment.carry change).toExpression whole = (segment.toExpression part).carry change := by
  by_cases isExpression : ∃ inner, segment = .expression inner
  · obtain ⟨inner, rfl⟩ := isExpression
    simp [toExpression]
  · have other (inner : Expression) : segment ≠ .expression inner :=
      fun same => isExpression ⟨inner, same⟩
    have carried (inner : Expression) : segment.carry change ≠ .expression inner := by
      cases segment with
      | expression found => exact absurd rfl (other found)
      | predicate found => rw [Segment.carry]; nofun
      | logical span connective parts => rw [Segment.carry]; nofun
    rw [toExpression_of_ne whole carried, toExpression_of_ne part other, Expression.carry,
      span_carry, ← shows]

end

end AnnotatedSql
