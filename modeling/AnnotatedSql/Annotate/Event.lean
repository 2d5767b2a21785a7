/-
This file holds what an annotation reports on its way, and how it can fail.
-/

import AnnotatedSql.Grammar.Rule
import AnnotatedSql.Span
import AnnotatedSql.Text.Escape
import AnnotatedSql.Vocabulary

namespace AnnotatedSql

/-- Why a grammar tree cannot be annotated. -/
inductive AnnotationError
  | malformedLiteral (span : Span)
  | structuralViolation (rule : Grammar.Rule) (span : Span)
  | invalidOrdinal (text : Text) (span : Span)
deriving DecidableEq, Repr

namespace AnnotationError

def span : AnnotationError → Span
  | .malformedLiteral span | .structuralViolation _ span | .invalidOrdinal _ span => span

def message : AnnotationError → String
  | .malformedLiteral span =>
      "Malformed literal at " ++ span.display ++ ": expected one of " ++
        Grammar.Rule.literals.slotList
  | .structuralViolation rule span =>
      "Structural violation in " ++ rule.name ++ " at " ++ span.display ++
        ": expected one of " ++ rule.slotList
  | .invalidOrdinal text span =>
      "Invalid ordinal position '" ++ String.ofList text ++ "' at " ++ span.display

end AnnotationError

/-- How much detail an event is about. -/
inductive Level
  | debug
  | trace
deriving DecidableEq, Repr

def Level.name : Level → String
  | .debug => "DEBUG"
  | .trace => "TRACE"

/-- A step of an annotation that is worth a line in a log. -/
inductive Event
  | statementStarted (span : Span)
  | subqueryStarted (span : Span)
  | markerNumbered (index : Nat) (span : Span)
  | xorReduced (span : Span)
  | truthTestKept (span : Span)
  | comparisonReduced (span : Span)
  | predicateKept (span : Span)
  | aggregateUnknown (name : Text) (span : Span)
  | aggregateFound (aggregate : Aggregate) (distinct : Bool)
  | castFound (dataType : Text) (span : Span)
  | statementFinished (markers : Nat)
deriving DecidableEq, Repr

namespace Event

def level : Event → Level
  | .subqueryStarted _ | .markerNumbered _ _ | .aggregateFound _ _ | .castFound _ _ => .trace
  | _ => .debug

def message : Event → String
  | .statementStarted _ => "Lowering statement"
  | .subqueryStarted _ => "Lowering subquery"
  | .markerNumbered _ _ => "Lowered parameter marker"
  | .xorReduced _ => "XOR keeps only its left operand"
  | .truthTestKept _ => "IS test kept as text"
  | .comparisonReduced _ => "Comparison on a non-column keeps only its left operand"
  | .predicateKept _ => "Predicate kept as text"
  | .aggregateUnknown _ _ => "Unrecognised aggregate kept as expression"
  | .aggregateFound _ _ => "Lowered aggregation"
  | .castFound _ _ => "Lowered cast"
  | .statementFinished _ => "Statement lowered"

/-- The details of the event by name, each as text. -/
def fields : Event → List (String × Text)
  | .statementStarted span | .subqueryStarted span | .xorReduced span | .truthTestKept span
  | .comparisonReduced span | .predicateKept span => [("span", span.display.toList)]
  | .markerNumbered index span =>
      [("index", (toString index).toList), ("span", span.display.toList)]
  | .aggregateUnknown name span => [("name", name), ("span", span.display.toList)]
  | .aggregateFound aggregate distinct =>
      [("aggregate", aggregate.spelling.toList), ("distinct", (toString distinct).toList)]
  | .castFound dataType span =>
      [("data_type", "Keyword(".toList ++ dataType.escaped ++ ")".toList),
       ("span", span.display.toList)]
  | .statementFinished markers => [("parameters", (toString markers).toList)]

end Event

end AnnotatedSql
