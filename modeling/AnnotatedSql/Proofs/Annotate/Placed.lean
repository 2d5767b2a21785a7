/-
This file says what it means that the spans of an annotated statement lie well in a source, so that
the text under any of them can be replaced without touching the others.
-/

import AnnotatedSql.Proofs.Token.Layout
import AnnotatedSql.Statement

namespace AnnotatedSql

namespace Span

/-- The first span lies inside the second one. -/
def Within (inner outer : Span) : Prop := outer.start ≤ inner.start ∧ inner.stop ≤ outer.stop

/-- The first span ends before the second one starts. -/
def Precedes (first second : Span) : Prop := first.stop < second.start

/-- The spans lie inside the outer one, one after the other. -/
def Holds (outer : Span) (inner : List Span) : Prop :=
  (∀ span ∈ inner, span.Within outer) ∧ inner.Pairwise Precedes

/-- The text is what the source has under the span. -/
def Spells (span : Span) (source text : Text) : Prop :=
  span.Fits source ∧ span.text? source = some text

end Span

variable (source : Text)

/-! ### Names, calls and order items -/

def PlacedName.Placed (name : PlacedName) : Prop := name.span.Fits source

def Column.Placed (column : Column) : Prop :=
  column.span.Fits source ∧
    ∀ owner ∈ column.owner, owner.Placed source ∧ owner.span.Within column.span

def Table.Placed (table : Table) : Prop :=
  table.span.Fits source ∧ table.name.Placed source ∧ table.name.span.Within table.span ∧
    ∀ owner ∈ table.owner, owner.Placed source ∧ owner.span.Within table.span

/-- The arguments of an aggregate lie at its end. -/
def AggregateUse.Placed (use : AggregateUse) : Prop :=
  use.span.Fits source ∧ (Span.mk use.opening use.span.stop).Fits source ∧
    (Span.mk use.opening use.span.stop).Within use.span

def Call.Placed : Call → Prop
  | .aggregate use => use.Placed source
  | .verbatim span text => span.Spells source text

def OrderItem.span : OrderItem → Span
  | .column reference _ => reference.span
  | .index span _ _ | .expression span _ _ => span

def OrderItem.Placed : OrderItem → Prop
  | .column reference _ => reference.Placed source
  | .index span _ _ => span.Fits source
  | .expression span text _ => span.Spells source text

def OrderList.Placed (list : OrderList) : Prop :=
  list.span.Fits source ∧ list.span.Holds (list.items.map OrderItem.span) ∧
    ∀ item ∈ list.items, item.Placed source

/-! ### Expressions and statements -/

/-- What a predicate compares its column with, in the order of the source; the candidates of an IN
lie where its parentheses lie. -/
def Comparand.spans : Comparand → List Span
  | .compared _ expression => [expression.span]
  | .among left right _ => [⟨left.start, right.stop⟩]
  | .between lower upper => [lower.span, upper.span]
  | .column reference => [reference.span]

def SelectItem.span : SelectItem → Span
  | .shorthand span _ | .expression span _ _ => span

/-- The parts of a statement in the order of the source. -/
def Statement.partSpans (statement : Statement) : List Span :=
  statement.selectList.span :: (statement.tables.map Table.span ++
    ((statement.condition.map Condition.span).toList ++
      ((statement.grouping.map OrderList.span).toList ++
        ((statement.having.map Condition.span).toList ++
          (statement.ordering.map OrderList.span).toList))))

mutual

def Expression.Placed : Expression → Prop
  | .literal span _ | .marker span _ => span.Fits source
  | .column reference => reference.Placed source
  | .verbatim span text => span.Spells source text
  | .subquery span statement =>
      span.Fits source ∧ statement.span.Within span ∧ statement.Placed
  | .call use => use.Placed source

def Expression.AllPlaced : List Expression → Prop
  | [] => True
  | first :: rest => first.Placed ∧ Expression.AllPlaced rest

/-- The ends of an IN are its parentheses, and its candidates lie between them. -/
def Comparand.Placed : Comparand → Prop
  | .compared _ expression => expression.Placed
  | .among left right candidates =>
      left.Spells source ['('] ∧ right.Spells source [')'] ∧
        (Span.mk left.start right.stop).Fits source ∧
        (Span.mk left.start right.stop).Holds (candidates.map Expression.span) ∧
        Expression.AllPlaced candidates
  | .between lower upper => lower.Placed ∧ upper.Placed
  | .column reference => reference.Placed source

def Predicate.Placed : Predicate → Prop
  | ⟨span, column, comparand⟩ =>
      span.Fits source ∧ column.Placed source ∧ comparand.Placed ∧
        span.Holds (column.span :: comparand.spans)

def Segment.Placed : Segment → Prop
  | .expression inner => inner.Placed
  | .predicate inner => inner.Placed
  | .logical span _ parts =>
      span.Fits source ∧ span.Holds (parts.map Segment.span) ∧ Segment.AllPlaced parts

def Segment.AllPlaced : List Segment → Prop
  | [] => True
  | first :: rest => first.Placed ∧ Segment.AllPlaced rest

def SelectItem.Placed : SelectItem → Prop
  | .shorthand span owner =>
      span.Fits source ∧ ∀ name ∈ owner, name.Placed source ∧ name.span.Within span
  | .expression span segment itemLabel =>
      span.Fits source ∧ segment.Placed ∧ (∀ name ∈ itemLabel, name.Placed source) ∧
        span.Holds (segment.span :: (itemLabel.map PlacedName.span).toList)

def SelectItem.AllPlaced : List SelectItem → Prop
  | [] => True
  | first :: rest => first.Placed ∧ SelectItem.AllPlaced rest

def SelectList.Placed : SelectList → Prop
  | ⟨span, _, items⟩ =>
      span.Fits source ∧ span.Holds (items.map SelectItem.span) ∧ SelectItem.AllPlaced items

def Condition.PlacedIn : Option Condition → Prop
  | none => True
  | some ⟨span, segment⟩ => span.Fits source ∧ segment.span.Within span ∧ segment.Placed

/-- All spans lie well in the source: each one fits, parts lie inside their whole, parts side by
side lie one after the other, and what is kept as text is the text under its span. -/
def Statement.Placed : Statement → Prop
  | ⟨span, list, tables, condition, grouping, having, ordering, markers⟩ =>
      span.Fits source ∧
        span.Holds (Statement.partSpans
          ⟨span, list, tables, condition, grouping, having, ordering, markers⟩) ∧
        list.Placed ∧ (∀ table ∈ tables, table.Placed source) ∧ Condition.PlacedIn condition ∧
        (∀ clause ∈ grouping, clause.Placed source) ∧ Condition.PlacedIn having ∧
        (∀ clause ∈ ordering, clause.Placed source)

end

/-! ### Placed parts have a text -/

variable {source}

theorem Call.Placed.fits {use : Call} (placed : use.Placed source) : use.span.Fits source := by
  cases use with
  | aggregate use => exact placed.1
  | verbatim span text => exact placed.1

theorem Expression.Placed.fits {expression : Expression} (placed : expression.Placed source) :
    expression.span.Fits source := by
  cases expression with
  | literal span value | marker span index =>
      rw [Expression.Placed] at placed
      exact placed
  | column reference =>
      rw [Expression.Placed] at placed
      exact placed.1
  | verbatim span text =>
      rw [Expression.Placed] at placed
      exact placed.1
  | subquery span statement =>
      rw [Expression.Placed] at placed
      exact placed.1
  | call use =>
      rw [Expression.Placed] at placed
      exact placed.fits

theorem Segment.Placed.fits {segment : Segment} (placed : segment.Placed source) :
    segment.span.Fits source := by
  cases segment with
  | expression inner =>
      rw [Segment.Placed] at placed
      exact placed.fits
  | predicate inner =>
      obtain ⟨span, column, comparand⟩ := inner
      rw [Segment.Placed, Predicate.Placed] at placed
      exact placed.1
  | logical span connective parts =>
      rw [Segment.Placed] at placed
      exact placed.1

theorem Span.Fits.spells {span : Span} (fits : span.Fits source) :
    span.Spells source (span.text source) := by
  obtain ⟨text, found⟩ := Option.isSome_iff_exists.mp fits.2
  refine ⟨fits, ?_⟩
  rw [Span.text, found]
  rfl

/-- As an expression a placed segment is placed at the same span. -/
theorem Segment.Placed.toExpression {segment : Segment} (placed : segment.Placed source) :
    (segment.toExpression source).Placed source ∧
      (segment.toExpression source).span = segment.span := by
  have fits := placed.fits
  unfold Segment.toExpression
  split
  · rw [Segment.Placed] at placed
    exact ⟨placed, rfl⟩
  · rw [Expression.Placed]
    exact ⟨fits.spells, rfl⟩

theorem Expression.allPlaced_toExpression {segments : List Segment}
    (placed : Segment.AllPlaced source segments) :
    Expression.AllPlaced source (segments.map fun segment => segment.toExpression source) ∧
      (segments.map fun segment => segment.toExpression source).map Expression.span =
        segments.map Segment.span := by
  induction segments with
  | nil =>
      rw [List.map_nil, Expression.AllPlaced]
      exact ⟨trivial, rfl⟩
  | cons first rest ih =>
      rw [Segment.AllPlaced] at placed
      obtain ⟨firstPlaced, firstSpan⟩ := placed.1.toExpression
      obtain ⟨restPlaced, restSpans⟩ := ih placed.2
      rw [List.map_cons, Expression.AllPlaced, List.map_cons, List.map_cons, firstSpan, restSpans]
      exact ⟨⟨firstPlaced, restPlaced⟩, rfl⟩

theorem Segment.allPlaced_append {first second : List Segment}
    (placed : Segment.AllPlaced source first) (others : Segment.AllPlaced source second) :
    Segment.AllPlaced source (first ++ second) := by
  induction first with
  | nil => exact others
  | cons segment rest ih =>
      rw [Segment.AllPlaced] at placed
      rw [List.cons_append, Segment.AllPlaced]
      exact ⟨placed.1, ih placed.2⟩

end AnnotatedSql
