/-
This file writes an annotated statement as a JSON value.
-/

import AnnotatedSql.Json
import AnnotatedSql.Statement

namespace AnnotatedSql

def Span.toJson (span : Span) : Json :=
  .object [("start", .ofNat span.start), ("stop", .ofNat span.stop)]

def Name.toJson (name : Name) : Json :=
  .object [("value", .string name.value), ("quote", .ofWord name.style.name)]

def PlacedName.toJson (placed : PlacedName) : Json :=
  .object [("span", placed.span.toJson), ("identifier", placed.name.toJson)]

def Column.toJson (column : Column) : Json :=
  .object
    [("span", column.span.toJson),
     ("identifier", column.name.toJson),
     ("owner", .ofOption PlacedName.toJson column.owner)]

def Table.toJson (table : Table) : Json :=
  .object
    [("table_name", table.name.toJson),
     ("owner", .ofOption PlacedName.toJson table.owner)]

def Value.toJson : Value → Json
  | .string contents => .tagged "String" (.string contents)
  | .number text => .tagged "Number" (.string text)
  | .boolean text => .tagged "Boolean" (.string text)
  | .other text => .tagged "Other" (.string text)
  | .name written => .tagged "Identifier" written.toJson
  | .keyword text => .tagged "Keyword" (.string text)
  | .marker index => .tagged "ParameterMarker" (.ofNat index)

def AggregateUse.toJson (use : AggregateUse) : Json :=
  .object
    [("span", use.span.toJson),
     ("aggregation_type", .ofWord use.aggregate.name),
     ("inner_expression_start", .ofNat use.opening),
     ("distinct_expression", .ofOption Json.string use.distinct)]

/-- A span with the text under it. -/
def Json.spannedText (span : Span) (text : Text) : Json :=
  .object [("span", span.toJson), ("text", .string text)]

def Call.toJson : Call → Json
  | .aggregate use => .tagged "Aggregation" use.toJson
  | .verbatim span text => .tagged "Expression" (.spannedText span text)

def Direction.toJson (direction : Direction) : Json := .ofWord direction.name

def OrderItem.toJson : OrderItem → Json
  | .column reference direction =>
      .tagged "Column" (.object
        [("column", reference.toJson), ("direction", direction.toJson)])
  | .index span position direction =>
      .tagged "Index" (.object
        [("span", span.toJson), ("position", .integer position),
         ("direction", direction.toJson)])
  | .expression span text direction =>
      .tagged "Expression" (.object
        [("span", span.toJson), ("text", .string text), ("direction", direction.toJson)])

def OrderList.toJson (list : OrderList) : Json :=
  .object [("span", list.span.toJson), ("items", .array (list.items.map OrderItem.toJson))]

mutual

def Expression.toJson : Expression → Json
  | .literal span value =>
      .tagged "Literal" (.object [("span", span.toJson), ("value", value.toJson)])
  | .marker span index =>
      .tagged "ParameterMarker" (.object [("span", span.toJson), ("index", .ofNat index)])
  | .column reference => .tagged "Column" reference.toJson
  | .verbatim span text => .tagged "Common" (.spannedText span text)
  | .subquery span statement =>
      .tagged "Subquery" (.object [("span", span.toJson), ("select", statement.toJson)])
  | .call use => .tagged "Projection" use.toJson

def Comparand.toJson : Comparand → Json
  | .compared operator expression =>
      .tagged "Compare" (.object
        [("operator", .string operator), ("expr", expression.toJson)])
  | .among left right candidates =>
      .tagged "In" (.object
        [("bracket", .object [("left", left.toJson), ("right", right.toJson)]),
         ("candidates", .array (expressionsToJson candidates))])
  | .between lower upper =>
      .tagged "Between" (.object [("lower", lower.toJson), ("upper", upper.toJson)])
  | .column reference => .tagged "Column" reference.toJson

def expressionsToJson : List Expression → List Json
  | [] => []
  | expression :: rest => expression.toJson :: expressionsToJson rest

def Predicate.toJson : Predicate → Json
  | ⟨span, column, comparand⟩ =>
      .object
        [("span", span.toJson), ("column", column.toJson),
         ("right_value", comparand.toJson)]

def Segment.toJson : Segment → Json
  | .expression inner => .tagged "Expression" inner.toJson
  | .predicate inner => .tagged "Predicate" inner.toJson
  | .logical span connective parts =>
      .tagged "Logical" (.object
        [("span", span.toJson), ("operator", .ofWord connective.name),
         ("predicates", .array (segmentsToJson parts))])

def segmentsToJson : List Segment → List Json
  | [] => []
  | segment :: rest => segment.toJson :: segmentsToJson rest

def SelectItem.toJson : SelectItem → Json
  | .shorthand span owner =>
      .tagged "Shorthand" (.object
        [("span", span.toJson), ("owner", .ofOption PlacedName.toJson owner)])
  | .expression span segment itemLabel =>
      .tagged "Expression" (.object
        [("span", span.toJson), ("segment", segment.toJson),
         ("alias", .ofOption PlacedName.toJson itemLabel)])

def selectItemsToJson : List SelectItem → List Json
  | [] => []
  | item :: rest => item.toJson :: selectItemsToJson rest

def Condition.toJson : Option Condition → Json
  | none => .null
  | some ⟨span, segment⟩ => .object [("span", span.toJson), ("expr", segment.toJson)]

def Statement.toJson : Statement → Json
  | ⟨span, ⟨listSpan, distinct, items⟩, tables, condition, grouping, having, ordering, markers⟩ =>
      .object
        [("span", span.toJson),
         ("projections", .object
           [("span", listSpan.toJson), ("distinct_row", .boolean distinct),
            ("items", .array (selectItemsToJson items))]),
         ("tables", .array (tables.map Table.toJson)),
         ("where_segment", Condition.toJson condition),
         ("group_by", .ofOption OrderList.toJson grouping),
         ("having", Condition.toJson having),
         ("order_by", .ofOption OrderList.toJson ordering),
         ("parameters_count", .ofNat markers)]

end

end AnnotatedSql
