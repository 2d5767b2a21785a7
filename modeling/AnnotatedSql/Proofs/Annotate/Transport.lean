/-
This file shows that the annotation of a tree goes along when the text of the tree comes to stand in
another source: the tree at its new offsets, annotated on the new source with more markers in front,
gives the old outcome carried over.
-/

import AnnotatedSql.Proofs.Annotate.Change
import AnnotatedSql.Proofs.Annotate.Drawn

namespace AnnotatedSql

open Grammar (Part)

/-- How an outcome comes to stand in the other source. -/
def Change.outcome {Value : Type} (change : Change) (carry : Value → Value) :
    Except AnnotationError Value → Except AnnotationError Value
  | .error error => .error (error.carry change)
  | .ok value => .ok (carry value)

/-- On the whole source, with more markers in front, the one annotation has the outcome of the other
on the part, carried over, and comes as many markers further, also when it fails. -/
def Follows {Value : Type} (change : Change) (whole part : Text) (carry : Value → Value)
    (moved original : Annotator Value) : Prop :=
  ∀ progress later : Progress, later.markers = progress.markers + change.add →
    (moved whole later).1 = change.outcome carry (original part progress).1 ∧
      (moved whole later).2.markers = (original part progress).2.markers + change.add

/-- The text under each span among the parts has come along. -/
def AllShown (change : Change) (whole part : Text) (parts : List Part) : Prop :=
  ∀ span, .span span ∈ parts → change.Shows whole part span

section
variable {change : Change} {whole part : Text} {parts further : List Part} {span : Span}

@[simp] theorem allShown_append : AllShown change whole part (parts ++ further) ↔
    AllShown change whole part parts ∧ AllShown change whole part further := by
  simp [AllShown, or_imp, forall_and]

@[simp] theorem allShown_span : AllShown change whole part (.span span :: parts) ↔
    change.Shows whole part span ∧ AllShown change whole part parts := by
  simp [AllShown, or_imp, forall_and]

@[simp] theorem allShown_item {item : Grammar.OrderItem} :
    AllShown change whole part (.item item :: parts) ↔ AllShown change whole part parts := by
  simp [AllShown]

@[simp] theorem allShown_select {select : Grammar.Select} :
    AllShown change whole part (.select select :: parts) ↔ AllShown change whole part parts := by
  simp [AllShown]

end

section
variable {Value Result : Type} {change : Change} {whole part : Text}
  {carry : Value → Value} {finish : Result → Result} {moved original : Annotator Value}

/-! ### Steps -/

/-- The later steps may use that the value is one of the original annotation. -/
theorem Follows.bind {further next : Value → Annotator Result}
    (first : Follows change whole part carry moved original)
    (rest : ∀ value, (∃ before after, original part before = (.ok value, after)) →
      Follows change whole part finish (further (carry value)) (next value)) :
    Follows change whole part finish (moved >>= further) (original >>= next) := by
  intro progress later markers
  obtain ⟨outcome, count⟩ := first progress later markers
  rw [Annotator.bind_run, Annotator.bind_run]
  rcases run : original part progress with ⟨error | value, after⟩
  · rcases other : moved whole later with ⟨found, place⟩
    rw [run, other] at outcome count
    obtain rfl : found = .error (error.carry change) := outcome
    exact ⟨rfl, count⟩
  · rcases other : moved whole later with ⟨found, place⟩
    rw [run, other] at outcome count
    obtain rfl : found = .ok (carry value) := outcome
    exact rest value ⟨progress, after, run⟩ after place count

theorem follows_pure {value other : Value} (same : other = carry value) :
    Follows change whole part carry (pure other) (pure value) := by
  rintro progress later markers
  rw [same]
  exact ⟨rfl, markers⟩

theorem follows_throw (error : AnnotationError) :
    Follows change whole part carry (throw (error.carry change)) (throw error) :=
  fun _ _ markers => ⟨rfl, markers⟩

/-- What events say is of no matter. -/
theorem follows_report (other event : Event) :
    Follows change whole part id (Annotate.report other) (Annotate.report event) :=
  fun _ _ markers => ⟨rfl, markers⟩

theorem follows_read {further next : Text → Annotator Result}
    (rest : Follows change whole part finish (further whole) (next part)) :
    Follows change whole part finish (read >>= further) (read >>= next) := rest

/-- Who looks at the number of markers sees the further one. -/
theorem follows_get {further next : Progress → Annotator Result}
    (rest : ∀ progress later : Progress, later.markers = progress.markers + change.add →
      Follows change whole part finish (further later) (next progress)) :
    Follows change whole part finish (get >>= further) (get >>= next) :=
  fun progress later markers => rest progress later markers progress later markers

theorem follows_mapM {Item : Type} {place : Item → Item} {step : Item → Annotator Value}
    {items : List Item}
    (each : ∀ item ∈ items, Follows change whole part carry (step (place item)) (step item)) :
    Follows change whole part (List.map carry) ((items.map place).mapM step) (items.mapM step) := by
  induction items with
  | nil => exact follows_pure rfl
  | cons first rest ih =>
      rw [List.map_cons, List.mapM_cons, List.mapM_cons]
      refine (each first List.mem_cons_self).bind fun value _ => ?_
      refine (ih fun item member => each item (List.mem_cons_of_mem _ member)).bind fun values _ => ?_
      exact follows_pure rfl

end

/-- A leaf in the other source. -/
def Leaf.carry (change : Change) : Leaf → Leaf
  | .value found => .value (found.carry change)
  | .segment found => .segment (found.carry change)

namespace Annotate

variable {change : Change} {whole part : Text} {span : Span}

theorem follows_textAt (shows : change.Shows whole part span) :
    Follows change whole part change.recasing.text (textAt (span.relocate change.move))
      (textAt span) :=
  follows_read (follows_pure shows)

theorem follows_verbatim (shows : change.Shows whole part span) :
    Follows change whole part (Expression.carry change) (verbatim (span.relocate change.move))
      (verbatim span) := by
  refine (follows_textAt shows).bind fun text _ => follows_pure ?_
  rw [Expression.carry]

theorem follows_verbatimSegment (shows : change.Shows whole part span) :
    Follows change whole part (Segment.carry change)
      (verbatimSegment (span.relocate change.move)) (verbatimSegment span) := by
  refine (follows_verbatim shows).bind fun _ _ => follows_pure ?_
  rw [Segment.carry]

theorem follows_verbatimCall (shows : change.Shows whole part span) :
    Follows change whole part (Call.carry change) (verbatimCall (span.relocate change.move))
      (verbatimCall span) :=
  (follows_textAt shows).bind fun _ _ => follows_pure rfl

theorem follows_marker :
    Follows change whole part (· + change.add) (marker (span.relocate change.move))
      (marker span) := by
  intro progress later markers
  refine ⟨congrArg Except.ok markers, ?_⟩
  change later.markers + 1 = progress.markers + 1 + change.add
  omega

theorem follows_literal {node : Grammar.Literal} (shown : AllShown change whole part node.parts) :
    Follows change whole part (Value.carry change) (literal (node.relocate change.move))
      (literal node) := by
  obtain ⟨span, string, number, hexadecimal, bitValue, boolean, null⟩ := node
  simp only [Grammar.Literal.parts, allShown_span, allShown_append] at shown
  obtain ⟨_, ⟨⟨⟨⟨ofString, ofNumber⟩, ofHexadecimal⟩, ofBits⟩, ofBoolean⟩, ofNull⟩ := shown
  cases string with
  | some found =>
      refine (follows_textAt (allShown_span.mp ofString).1).bind fun text _ => follows_pure ?_
      rw [change.recasing.stringContents_text, Value.carry]
  | none =>
  cases number with
  | some found => exact (follows_textAt (allShown_span.mp ofNumber).1).bind fun _ _ => follows_pure rfl
  | none =>
  cases hexadecimal with
  | some found =>
      exact (follows_textAt (allShown_span.mp ofHexadecimal).1).bind fun _ _ => follows_pure rfl
  | none =>
  cases bitValue with
  | some found => exact (follows_textAt (allShown_span.mp ofBits).1).bind fun _ _ => follows_pure rfl
  | none =>
  cases boolean with
  | some found =>
      exact (follows_textAt (allShown_span.mp ofBoolean).1).bind fun _ _ => follows_pure rfl
  | none =>
  cases null with
  | some found => exact (follows_textAt (allShown_span.mp ofNull).1).bind fun _ _ => follows_pure rfl
  | none => exact follows_throw (.malformedLiteral span)

theorem follows_name {node : Grammar.Identifier} (shown : AllShown change whole part node.parts) :
    Follows change whole part change.recasing.name (name (node.relocate change.move))
      (name node) := by
  obtain ⟨span, word⟩ := node
  have shows : change.Shows whole part (word.getD span) := by
    cases word with
    | none => exact (allShown_span.mp shown).1
    | some word => exact (allShown_span.mp (allShown_span.mp shown).2).1
  have moved : (word.map (Span.relocate change.move)).getD (span.relocate change.move) =
      (word.getD span).relocate change.move := by
    cases word <;> rfl
  rw [name, name, Grammar.Identifier.relocate, moved]
  refine (follows_textAt shows).bind fun text _ => follows_pure ?_
  rw [change.recasing.ofText_text]

theorem follows_placedName {node : Grammar.Label} (shown : AllShown change whole part node.parts) :
    Follows change whole part (PlacedName.carry change) (placedName (node.relocate change.move))
      (placedName node) :=
  (follows_name (allShown_span.mp shown).2).bind fun _ _ => follows_pure rfl

theorem follows_placedName? {node : Option Grammar.Label}
    (shown : AllShown change whole part (Grammar.Label.partsIn node)) :
    Follows change whole part (Option.map (PlacedName.carry change))
      (placedName? (node.map (Grammar.Label.relocate change.move))) (placedName? node) := by
  cases node with
  | none => exact follows_pure rfl
  | some node => exact (follows_placedName shown).bind fun _ _ => follows_pure rfl

theorem follows_column {node : Grammar.QualifiedName}
    (shown : AllShown change whole part node.parts) :
    Follows change whole part (Column.carry change) (column (node.relocate change.move))
      (column node) := by
  rw [Grammar.QualifiedName.parts, allShown_span, allShown_append] at shown
  refine (follows_name shown.2.2).bind fun _ _ => ?_
  exact (follows_placedName? shown.2.1).bind fun _ _ => follows_pure rfl

theorem follows_table {node : Grammar.QualifiedName}
    (shown : AllShown change whole part node.parts) :
    Follows change whole part (Table.carry change) (table (node.relocate change.move))
      (table node) := by
  rw [Grammar.QualifiedName.parts, allShown_span, allShown_append] at shown
  refine (follows_name shown.2.2).bind fun _ _ => ?_
  exact (follows_placedName? shown.2.1).bind fun _ _ => follows_pure rfl

theorem allShown_among {nodes : List Grammar.QualifiedName}
    (shown : AllShown change whole part (Grammar.QualifiedName.partsAmong nodes)) :
    ∀ node ∈ nodes, AllShown change whole part node.parts := by
  induction nodes with
  | nil => nofun
  | cons first rest ih =>
      rw [Grammar.QualifiedName.partsAmong, allShown_append] at shown
      intro node member
      rcases List.mem_cons.mp member with rfl | later
      · exact shown.1
      · exact ih shown.2 node later

theorem follows_tables? {node : Option Grammar.NameList}
    (shown : AllShown change whole part (Grammar.NameList.partsIn node)) :
    Follows change whole part (List.map (Table.carry change))
      (tables? (node.map (Grammar.NameList.relocate change.move))) (tables? node) := by
  cases node with
  | none => exact follows_pure rfl
  | some node =>
      rw [Grammar.NameList.partsIn, allShown_span] at shown
      exact follows_mapM fun name member => follows_table (allShown_among shown.2 name member)

theorem follows_position (shows : change.Shows whole part span) :
    Follows change whole part id (position (span.relocate change.move)) (position span) := by
  refine (follows_textAt shows).bind fun text _ => ?_
  rw [change.recasing.ordinal_text]
  split
  · exact follows_pure rfl
  · exact follows_throw (.invalidOrdinal text span)

theorem follows_leafSegment {leaf : Leaf} (shows : change.Shows whole part span) :
    Follows change whole part (Segment.carry change)
      (leafSegment (span.relocate change.move) (leaf.carry change)) (leafSegment span leaf) := by
  cases leaf with
  | segment found => exact follows_pure rfl
  | value found =>
      have kept : Follows change whole part (Segment.carry change)
          (if (found.carry change).isScalar then
            return .expression (.literal (span.relocate change.move) (found.carry change))
          else verbatimSegment (span.relocate change.move))
          (if found.isScalar then return .expression (.literal span found)
          else verbatimSegment span) := by
        rw [Value.isScalar_carry]
        split
        · refine follows_pure ?_
          rw [Segment.carry, Expression.carry]
        · exact follows_verbatimSegment shows
      cases found with
      | marker index =>
          refine follows_pure ?_
          rw [Segment.carry, Expression.carry]
      | _ => exact kept

theorem follows_keptPredicate (shows : change.Shows whole part span) :
    Follows change whole part (Segment.carry change) (keptPredicate (span.relocate change.move))
      (keptPredicate span) :=
  (follows_report _ _).bind fun _ _ => follows_verbatimSegment shows

theorem follows_comparison {operator : Span} {left right : Segment}
    (sign : change.Shows whole part operator) (shows : change.Shows whole part right.span) :
    Follows change whole part (Segment.carry change)
      (comparison (span.relocate change.move) (operator.relocate change.move)
        (left.carry change) (right.carry change))
      (comparison span operator left right) := by
  rw [comparison, comparison, Segment.column_carry]
  cases left.column? with
  | none => exact (follows_report _ _).bind fun _ _ => follows_pure rfl
  | some column =>
      rw [Segment.column_carry]
      cases right.column? with
      | some other =>
          refine follows_pure ?_
          rw [Segment.carry, Predicate.carry, Comparand.carry]
      | none =>
          refine (follows_textAt sign).bind fun text _ => follows_read (follows_pure ?_)
          rw [Segment.toExpression_carry change shows, Segment.carry, Predicate.carry,
            Comparand.carry]

theorem follows_test {operand : Segment} {negation : Option Span}
    {moved comparand : Text → Comparand} (shows : change.Shows whole part span)
    (carried : moved whole = (comparand part).carry change) :
    Follows change whole part (Segment.carry change)
      (test (span.relocate change.move) (operand.carry change)
        (negation.map (Span.relocate change.move)) moved)
      (test span operand negation comparand) := by
  unfold test
  rw [Segment.column_carry]
  cases negation with
  | some word => exact follows_keptPredicate shows
  | none =>
      cases operand.column? with
      | none => exact follows_keptPredicate shows
      | some column =>
          refine follows_read (follows_pure ?_)
          rw [carried, Segment.carry, Predicate.carry]

/-- A use of an aggregate is told apart by its name in any case. -/
theorem follows_aggregateUse {node : Grammar.AggregationCall}
    (shown : AllShown change whole part node.parts) :
    Follows change whole part (Call.carry change) (aggregateUse (node.relocate change.move))
      (aggregateUse node) := by
  obtain ⟨span, name, leftParen, distinct, arguments, rightParen⟩ := node
  simp only [Grammar.AggregationCall.parts, allShown_span, allShown_append] at shown
  obtain ⟨shows, named, _, ⟨_, inside⟩, _⟩ := shown
  rw [aggregateUse, aggregateUse, Grammar.AggregationCall.relocate]
  refine (follows_textAt named).bind fun text _ => ?_
  rw [change.recasing.aggregate_text]
  split
  · exact (follows_report _ _).bind fun _ _ => follows_verbatimCall shows
  · have spans : (Grammar.AggregationArgument.relocateAmong change.move arguments).map
        Grammar.AggregationArgument.span =
          (arguments.map Grammar.AggregationArgument.span).map (Span.relocate change.move) := by
      simp
    rw [spans]
    refine (follows_mapM fun place member => follows_textAt ?_).bind fun texts _ => ?_
    · obtain ⟨argument, listed, rfl⟩ := List.mem_map.mp member
      exact inside _ (Grammar.AggregationArgument.span_mem_partsAmong listed)
    · refine (follows_report _ _).bind fun _ _ => follows_pure ?_
      rw [Call.carry, AggregateUse.carry]
      cases distinct with
      | none => rfl
      | some word =>
          simp only [Option.map_some]
          rw [change.recasing.text_flatten]
          rfl

end Annotate

end AnnotatedSql
