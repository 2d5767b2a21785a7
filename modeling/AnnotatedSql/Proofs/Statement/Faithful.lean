/-
This file shows that an annotated statement is determined by its JSON value, even if the fields of
the objects in it are put in another order, and that every answer on the command line is a text of
this value.
-/

import AnnotatedSql.CommandLine
import AnnotatedSql.Proofs.Json.Rendering
import AnnotatedSql.Proofs.Json.Same

namespace AnnotatedSql

/-! ### Words -/

theorem QuoteStyle.name_injective : Function.Injective QuoteStyle.name := by
  intro first second same
  cases first <;> cases second <;> first | rfl | exact absurd same (by decide)

theorem Connective.name_injective : Function.Injective Connective.name := by
  intro first second same
  cases first <;> cases second <;> first | rfl | exact absurd same (by decide)

theorem Aggregate.name_injective : Function.Injective Aggregate.name := by
  intro first second same
  cases first <;> cases second <;> first | rfl | exact absurd same (by decide)

theorem Direction.name_injective : Function.Injective Direction.name := by
  intro first second same
  cases first <;> cases second <;> first | rfl | exact absurd same (by decide)

/-! ### Spans, names and references -/

theorem Span.eq_of_same {first second : Span} (same : first.toJson.Same second.toJson) :
    first = second := by
  have start := (same.field "start" rfl rfl).number
  have stop := (same.field "stop" rfl rfl).number
  obtain ⟨_, _⟩ := first
  obtain rfl := start
  obtain rfl := stop
  rfl

theorem Name.eq_of_same {first second : Name} (same : first.toJson.Same second.toJson) :
    first = second := by
  have value := (same.field "value" rfl rfl).text
  have style := (same.field "quote" rfl rfl).word QuoteStyle.name_injective
  obtain ⟨_, _⟩ := first
  obtain rfl := value
  obtain rfl := style
  rfl

theorem PlacedName.eq_of_same (first second : PlacedName)
    (same : first.toJson.Same second.toJson) : first = second := by
  have span := Span.eq_of_same (same.field "span" rfl rfl)
  have name := Name.eq_of_same (same.field "identifier" rfl rfl)
  obtain ⟨_, _⟩ := first
  obtain rfl := span
  obtain rfl := name
  rfl

theorem PlacedName.eq_of_same? {first second : Option PlacedName}
    (same : (Json.ofOption toJson first).Same (.ofOption toJson second)) : first = second :=
  same.ofOption eq_of_same nofun

theorem Column.eq_of_same {first second : Column} (same : first.toJson.Same second.toJson) :
    first = second := by
  have span := Span.eq_of_same (same.field "span" rfl rfl)
  have name := Name.eq_of_same (same.field "identifier" rfl rfl)
  have owner := PlacedName.eq_of_same? (same.field "owner" rfl rfl)
  obtain ⟨_, _, _⟩ := first
  obtain rfl := span
  obtain rfl := name
  obtain rfl := owner
  rfl

theorem Table.eq_of_same (first second : Table) (same : first.toJson.Same second.toJson) :
    first = second := by
  have name := PlacedName.eq_of_same _ _ (same.field "table_name" rfl rfl)
  have owner := PlacedName.eq_of_same? (same.field "owner" rfl rfl)
  obtain ⟨_, _⟩ := first
  obtain rfl := name
  obtain rfl := owner
  rfl

/-! ### Values, calls and order items

Two cases are told apart by their names, so that only equal cases are left after the splits. -/

theorem Value.eq_of_same {first second : Value} (same : first.toJson.Same second.toJson) :
    first = second := by
  cases first <;> cases second <;>
    first
    | exact absurd same.tagged.1 (by decide)
    | have contents := same.tagged.2
  case string.string => rw [contents.text]
  case number.number => rw [contents.text]
  case boolean.boolean => rw [contents.text]
  case other.other => rw [contents.text]
  case name.name => rw [Name.eq_of_same contents]
  case keyword.keyword => rw [contents.text]
  case marker.marker => rw [contents.number]

theorem AggregateUse.eq_of_same {first second : AggregateUse}
    (same : first.toJson.Same second.toJson) : first = second := by
  have span := Span.eq_of_same (same.field "span" rfl rfl)
  have aggregate := (same.field "aggregation_type" rfl rfl).word Aggregate.name_injective
  have opening := (same.field "inner_expression_start" rfl rfl).number
  have distinct : first.distinct = second.distinct :=
    (same.field "distinct_expression" rfl rfl).ofOption (fun _ _ same => same.text) nofun
  obtain ⟨_, _, _, _⟩ := first
  obtain rfl := span
  obtain rfl := aggregate
  obtain rfl := opening
  obtain rfl := distinct
  rfl

theorem Json.spannedText_same {span other : Span} {text otherText : Text}
    (same : (Json.spannedText span text).Same (.spannedText other otherText)) :
    span = other ∧ text = otherText :=
  ⟨Span.eq_of_same (same.field "span" rfl rfl), (same.field "text" rfl rfl).text⟩

theorem Call.eq_of_same {first second : Call} (same : first.toJson.Same second.toJson) :
    first = second := by
  cases first <;> cases second <;>
    first
    | exact absurd same.tagged.1 (by decide)
    | have contents := same.tagged.2
  case aggregate.aggregate => rw [AggregateUse.eq_of_same contents]
  case verbatim.verbatim =>
      obtain ⟨rfl, rfl⟩ := Json.spannedText_same contents
      rfl

theorem Direction.eq_of_same {first second : Direction}
    (same : first.toJson.Same second.toJson) : first = second :=
  same.word Direction.name_injective

theorem OrderItem.eq_of_same (first second : OrderItem)
    (same : first.toJson.Same second.toJson) : first = second := by
  cases first <;> cases second <;>
    first
    | exact absurd same.tagged.1 (by decide)
    | have contents := same.tagged.2
  case column.column =>
      rw [Column.eq_of_same (contents.field "column" rfl rfl),
        Direction.eq_of_same (contents.field "direction" rfl rfl)]
  case index.index =>
      rw [Span.eq_of_same (contents.field "span" rfl rfl),
        (contents.field "position" rfl rfl).integer_eq,
        Direction.eq_of_same (contents.field "direction" rfl rfl)]
  case expression.expression =>
      rw [Span.eq_of_same (contents.field "span" rfl rfl), (contents.field "text" rfl rfl).text,
        Direction.eq_of_same (contents.field "direction" rfl rfl)]

theorem OrderList.eq_of_same (first second : OrderList)
    (same : first.toJson.Same second.toJson) : first = second := by
  have span := Span.eq_of_same (same.field "span" rfl rfl)
  have items : first.items = second.items :=
    Json.Same.list OrderItem.eq_of_same (same.field "items" rfl rfl).items
  obtain ⟨_, _⟩ := first
  obtain rfl := span
  obtain rfl := items
  rfl

theorem OrderList.eq_of_same? {first second : Option OrderList}
    (same : (Json.ofOption toJson first).Same (.ofOption toJson second)) : first = second :=
  same.ofOption eq_of_same nofun

/-! ### Expressions and statements -/

mutual

theorem Expression.eq_of_same : ∀ (first second : Expression),
    first.toJson.Same second.toJson → first = second := by
  intro first second same
  cases first <;> cases second <;>
    first
    | exact absurd same.tagged.1 (by decide)
    | have contents := same.tagged.2
  case literal.literal =>
      rw [Span.eq_of_same (contents.field "span" rfl rfl),
        Value.eq_of_same (contents.field "value" rfl rfl)]
  case marker.marker =>
      rw [Span.eq_of_same (contents.field "span" rfl rfl),
        (contents.field "index" rfl rfl).number]
  case column.column => rw [Column.eq_of_same contents]
  case verbatim.verbatim =>
      obtain ⟨rfl, rfl⟩ := Json.spannedText_same contents
      rfl
  case subquery.subquery span statement other otherStatement =>
      rw [Span.eq_of_same (contents.field "span" rfl rfl),
        Statement.eq_of_same statement otherStatement (contents.field "select" rfl rfl)]
  case call.call => rw [Call.eq_of_same contents]

theorem expressions_eq_of_same : ∀ first second : List Expression,
    List.Forall₂ Json.Same (expressionsToJson first) (expressionsToJson second) → first = second
  | [], [], _ => rfl
  | [], _ :: _, each => nomatch each
  | _ :: _, [], each => nomatch each
  | first :: rest, second :: others, each => by
      rw [expressionsToJson, expressionsToJson, List.forall₂_cons] at each
      rw [Expression.eq_of_same first second each.1, expressions_eq_of_same rest others each.2]

theorem Comparand.eq_of_same : ∀ first second : Comparand,
    first.toJson.Same second.toJson → first = second := by
  intro first second same
  cases first <;> cases second <;>
    first
    | exact absurd same.tagged.1 (by decide)
    | have contents := same.tagged.2
  case compared.compared operator expression other otherExpression =>
      rw [(contents.field "operator" rfl rfl).text,
        Expression.eq_of_same expression otherExpression (contents.field "expr" rfl rfl)]
  case among.among left right candidates otherLeft otherRight others =>
      have bracket := contents.field "bracket" rfl rfl
      rw [Span.eq_of_same (bracket.field "left" rfl rfl),
        Span.eq_of_same (bracket.field "right" rfl rfl),
        expressions_eq_of_same candidates others (contents.field "candidates" rfl rfl).items]
  case between.between lower upper otherLower otherUpper =>
      rw [Expression.eq_of_same lower otherLower (contents.field "lower" rfl rfl),
        Expression.eq_of_same upper otherUpper (contents.field "upper" rfl rfl)]
  case column.column => rw [Column.eq_of_same contents]

theorem Predicate.eq_of_same : ∀ first second : Predicate,
    first.toJson.Same second.toJson → first = second
  | ⟨span, column, comparand⟩, ⟨otherSpan, otherColumn, otherComparand⟩, same => by
      rw [Span.eq_of_same (same.field "span" rfl rfl),
        Column.eq_of_same (same.field "column" rfl rfl),
        Comparand.eq_of_same comparand otherComparand (same.field "right_value" rfl rfl)]

theorem Segment.eq_of_same : ∀ first second : Segment,
    first.toJson.Same second.toJson → first = second := by
  intro first second same
  cases first <;> cases second <;>
    first
    | exact absurd same.tagged.1 (by decide)
    | have contents := same.tagged.2
  case expression.expression inner other => rw [Expression.eq_of_same inner other contents]
  case predicate.predicate inner other => rw [Predicate.eq_of_same inner other contents]
  case logical.logical span connective parts otherSpan otherConnective others =>
      rw [Span.eq_of_same (contents.field "span" rfl rfl),
        (contents.field "operator" rfl rfl).word Connective.name_injective,
        segments_eq_of_same parts others (contents.field "predicates" rfl rfl).items]

theorem segments_eq_of_same : ∀ first second : List Segment,
    List.Forall₂ Json.Same (segmentsToJson first) (segmentsToJson second) → first = second
  | [], [], _ => rfl
  | [], _ :: _, each => nomatch each
  | _ :: _, [], each => nomatch each
  | first :: rest, second :: others, each => by
      rw [segmentsToJson, segmentsToJson, List.forall₂_cons] at each
      rw [Segment.eq_of_same first second each.1, segments_eq_of_same rest others each.2]

theorem SelectItem.eq_of_same : ∀ first second : SelectItem,
    first.toJson.Same second.toJson → first = second := by
  intro first second same
  cases first <;> cases second <;>
    first
    | exact absurd same.tagged.1 (by decide)
    | have contents := same.tagged.2
  case shorthand.shorthand =>
      rw [Span.eq_of_same (contents.field "span" rfl rfl),
        PlacedName.eq_of_same? (contents.field "owner" rfl rfl)]
  case expression.expression span segment itemLabel otherSpan otherSegment otherLabel =>
      rw [Span.eq_of_same (contents.field "span" rfl rfl),
        Segment.eq_of_same segment otherSegment (contents.field "segment" rfl rfl),
        PlacedName.eq_of_same? (contents.field "alias" rfl rfl)]

theorem selectItems_eq_of_same : ∀ first second : List SelectItem,
    List.Forall₂ Json.Same (selectItemsToJson first) (selectItemsToJson second) → first = second
  | [], [], _ => rfl
  | [], _ :: _, each => nomatch each
  | _ :: _, [], each => nomatch each
  | first :: rest, second :: others, each => by
      rw [selectItemsToJson, selectItemsToJson, List.forall₂_cons] at each
      rw [SelectItem.eq_of_same first second each.1, selectItems_eq_of_same rest others each.2]

theorem Condition.eq_of_same : ∀ first second : Option Condition,
    (Condition.toJson first).Same (Condition.toJson second) → first = second
  | none, none, _ => rfl
  | none, some ⟨_, _⟩, same => nomatch same
  | some ⟨_, _⟩, none, same => nomatch same
  | some ⟨span, segment⟩, some ⟨otherSpan, otherSegment⟩, same => by
      rw [Span.eq_of_same (same.field "span" rfl rfl),
        Segment.eq_of_same segment otherSegment (same.field "expr" rfl rfl)]

theorem Statement.eq_of_same : ∀ first second : Statement,
    first.toJson.Same second.toJson → first = second
  | ⟨span, ⟨listSpan, distinct, items⟩, tables, condition, grouping, having, ordering, markers⟩,
    ⟨_, ⟨_, _, otherItems⟩, _, otherCondition, _, otherHaving, _, _⟩, same => by
      have projections := same.field "projections" rfl rfl
      rw [Span.eq_of_same (same.field "span" rfl rfl),
        Span.eq_of_same (projections.field "span" rfl rfl),
        (projections.field "distinct_row" rfl rfl).boolean_eq,
        selectItems_eq_of_same items otherItems (projections.field "items" rfl rfl).items,
        Json.Same.list Table.eq_of_same (same.field "tables" rfl rfl).items,
        Condition.eq_of_same condition otherCondition (same.field "where_segment" rfl rfl),
        OrderList.eq_of_same? (same.field "group_by" rfl rfl),
        Condition.eq_of_same having otherHaving (same.field "having" rfl rfl),
        OrderList.eq_of_same? (same.field "order_by" rfl rfl),
        (same.field "parameters_count" rfl rfl).number]

end

/-- What a JSON value is the value of; no two statements compete for it. -/
theorem Statement.recoverable : ∃ recover : Json → Option Statement,
    ∀ (statement : Statement) (value : Json), statement.toJson.Same value →
      recover value = some statement := by
  classical
  refine ⟨fun value => if written : ∃ statement : Statement, statement.toJson.Same value then
    some written.choose else none, fun statement value same => ?_⟩
  have written : ∃ statement : Statement, statement.toJson.Same value := ⟨statement, same⟩
  -- The chosen statement has the same value as the given one, through the value it is read from.
  refine (dif_pos written).trans ?_
  exact congrArg some (Statement.eq_of_same _ _ (written.choose_spec.common same))

/-! ### Answers on the command line -/

namespace CommandLine

/-- Pretty or not, an answer lays out the value of its statement. -/
theorem answer_layout {request : Request} {input : Text} {statement : Statement}
    (annotated : annotate (request.sql.getD input).trim = .ok statement) :
    Json.Layout (statement.toJson.piecesBefore []) (answer request input).output := by
  have rendering : Json.Layout (statement.toJson.piecesBefore [])
      (if request.pretty then statement.toJson.pretty else statement.toJson.compact) := by
    split
    · exact Json.layout_pretty _
    · exact Json.layout_compact _
  rw [answer, annotated]
  exact rendering.concat rfl

end CommandLine

/-- Statements and JSON values correspond one to one, whatever the order of fields, and both
renderings are texts of the one value, which differ in white space outside of literals only. -/
theorem toJson_faithful :
    (∀ first second : Statement, first.toJson.Same second.toJson ↔ first = second) ∧
    (∃ recover : Json → Option Statement, ∀ (statement : Statement) (value : Json),
      statement.toJson.Same value → recover value = some statement) ∧
    ∀ statement : Statement,
      Json.read? statement.toJson.compact = some statement.toJson ∧
      Json.read? statement.toJson.pretty = some statement.toJson ∧
      Json.squeeze statement.toJson.compact = statement.toJson.compact ∧
      Json.squeeze statement.toJson.pretty = statement.toJson.compact ∧
      ∀ (request : CommandLine.Request) (input : Text),
        annotate (request.sql.getD input).trim = .ok statement →
        Json.read? (CommandLine.answer request input).output = some statement.toJson ∧
        Json.squeeze (CommandLine.answer request input).output = statement.toJson.compact := by
  refine ⟨fun first second => ⟨Statement.eq_of_same first second, ?_⟩, Statement.recoverable,
    fun statement => ?_⟩
  · rintro rfl
    exact Json.same_refl _
  · have compact := (Json.layout_compact statement.toJson).of_value
    have pretty := (Json.layout_pretty statement.toJson).of_value
    exact ⟨compact.1, pretty.1, compact.2, pretty.2, fun request input annotated =>
      (CommandLine.answer_layout annotated).of_value⟩

/-- The blank inside the literal is kept, and so is the quote. -/
theorem toJson_faithful_literal :
    ∃ statement, annotate "SELECT 'a\" b'".toList = .ok statement ∧
      Json.read? (CommandLine.answer ⟨true, some "SELECT 'a\" b'".toList⟩ []).output =
        some statement.toJson ∧
      Json.squeeze (CommandLine.answer ⟨true, some "SELECT 'a\" b'".toList⟩ []).output =
        statement.toJson.compact := by
  have succeeds : (annotate "SELECT 'a\" b'".toList).toOption.isSome = true := by decide +kernel
  rcases run : annotate "SELECT 'a\" b'".toList with error | statement
  · rw [run] at succeeds
    contradiction
  · exact ⟨statement, rfl, (toJson_faithful.2.2 statement).2.2.2.2 _ [] run⟩

end AnnotatedSql
