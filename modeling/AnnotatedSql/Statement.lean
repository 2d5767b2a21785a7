/-
This file fixes the annotated statement.
Every part carries the span of the source text that it stands for, so that a client can replace
that text and nothing else.
-/

import AnnotatedSql.Quoting
import AnnotatedSql.Span
import AnnotatedSql.Vocabulary

namespace AnnotatedSql

/-- A name and its place. -/
structure PlacedName where
  span : Span
  name : Name
deriving DecidableEq, Repr

/-- A column reference; the span covers the owner too. -/
structure Column where
  span : Span
  name : Name
  owner : Option PlacedName
deriving DecidableEq, Repr

/-- The column's name, after its owner and a dot when there is one. -/
def Column.qualifiedName (column : Column) : Text :=
  match column.owner with
  | some owner => owner.name.value ++ '.' :: column.name.value
  | none => column.name.value

/-- A table reference. -/
structure Table where
  name : PlacedName
  owner : Option PlacedName
deriving DecidableEq, Repr

/-- The span of the whole reference, the owner included. -/
def Table.span (table : Table) : Span :=
  match table.owner with
  | some owner => owner.span.join table.name.span
  | none => table.name.span

/-- What a leaf of the grammar stands for. -/
inductive Value
  | string (contents : Text)
  | number (text : Text)
  | boolean (text : Text)
  | other (text : Text)
  | name (name : Name)
  | keyword (text : Text)
  | marker (index : Nat)
deriving DecidableEq, Repr

/-- Strings, numbers and booleans stand as literals of their own. -/
def Value.isScalar : Value → Bool
  | .string _ | .number _ | .boolean _ => true
  | _ => false

/-- A call of a known aggregate; `opening` is the offset of its opening parenthesis, and
`distinct` the text after DISTINCT when the call has it. -/
structure AggregateUse where
  span : Span
  aggregate : Aggregate
  opening : Nat
  distinct : Option Text
deriving DecidableEq, Repr

/-- The arguments with their parentheses. -/
def AggregateUse.arguments (use : AggregateUse) (source : Text) : Text :=
  (Span.mk use.opening use.span.stop).text source

/-- A function call; other calls than aggregates are kept as text. -/
inductive Call
  | aggregate (use : AggregateUse)
  | verbatim (span : Span) (text : Text)
deriving DecidableEq, Repr

def Call.span : Call → Span
  | .aggregate use => use.span
  | .verbatim span _ => span

/-- An item of ORDER BY or GROUP BY. -/
inductive OrderItem
  | column (column : Column) (direction : Direction)
  | index (span : Span) (position : Int) (direction : Direction)
  | expression (span : Span) (text : Text) (direction : Direction)
deriving DecidableEq, Repr

structure OrderList where
  span : Span
  items : List OrderItem
deriving DecidableEq, Repr

mutual

/-- `verbatim` keeps as text what is not taken apart. -/
inductive Expression
  | literal (span : Span) (value : Value)
  | marker (span : Span) (index : Nat)
  | column (column : Column)
  | verbatim (span : Span) (text : Text)
  | subquery (span : Span) (statement : Statement)
  | call (call : Call)

/-- What a predicate compares its column with. -/
inductive Comparand
  | compared (operator : Text) (expression : Expression)
  | among (left right : Span) (candidates : List Expression)
  | between (lower upper : Expression)
  | column (column : Column)

/-- A test of a single column. -/
structure Predicate where
  span : Span
  column : Column
  comparand : Comparand

/-- What any expression of the grammar is annotated with. -/
inductive Segment
  | expression (expression : Expression)
  | predicate (predicate : Predicate)
  | logical (span : Span) (connective : Connective) (parts : List Segment)

inductive SelectItem
  | shorthand (span : Span) (owner : Option PlacedName)
  | expression (span : Span) (segment : Segment) (itemLabel : Option PlacedName)

structure SelectList where
  span : Span
  distinct : Bool
  items : List SelectItem

/-- The condition of WHERE or HAVING. -/
structure Condition where
  span : Span
  segment : Segment

/-- A SELECT by itself or inside another one; `markers` is the number of parameter markers up to
its end. -/
structure Statement where
  span : Span
  selectList : SelectList
  tables : List Table
  condition : Option Condition
  grouping : Option OrderList
  having : Option Condition
  ordering : Option OrderList
  markers : Nat

end

def Expression.span : Expression → Span
  | .literal span _ | .marker span _ | .verbatim span _ | .subquery span _ => span
  | .column reference => reference.span
  | .call use => use.span

namespace Segment

def span : Segment → Span
  | .expression inner => inner.span
  | .predicate inner => inner.span
  | .logical span _ _ => span

/-- The column, if the segment is nothing but a column. -/
def column? : Segment → Option Column
  | .expression (.column reference) => some reference
  | _ => none

/-- The parts of a chain of the given connective; any other segment is its only part. -/
def chainParts (connective : Connective) : Segment → List Segment
  | .logical span inner parts =>
      if inner = connective then parts else [.logical span inner parts]
  | segment => [segment]

/-- Joins two segments; a chain of the same connective on the left is extended. -/
def join (left : Segment) (connective : Connective) (right : Segment) (span : Span) : Segment :=
  .logical span connective (left.chainParts connective ++ [right])

/-- The segment as an expression; what is no expression is kept as its text. -/
def toExpression (segment : Segment) (source : Text) : Expression :=
  match segment with
  | .expression inner => inner
  | other => .verbatim other.span (other.span.text source)

end Segment

end AnnotatedSql
