/-
This file parses bit expressions and the predicates over them.
-/

import AnnotatedSql.Grammar.Parse.SimpleExpr
import AnnotatedSql.Grammar.Precedence

namespace AnnotatedSql.Grammar.Parse

/-- Extends an operand by operators of at least the given level, at most the given number. -/
def bitChain (nested : Nested) (start minimum : Nat) : Nat → BitExpr → Parser BitExpr
  | 0, left => return left
  | rounds + 1, left => do
      match Precedence.bit? (← kindAhead 0) with
      | none => return left
      | some level =>
          if level < minimum then
            return left
          else
            let operator ← terminal
            let right ← nested.bitExpr (level + 1)
            let span ← spanFrom start
            bitChain nested start minimum rounds (.binary span left operator right)

/-- Operators of at least the given level over simple expressions. -/
def bitExpr (nested : Nested) (minimum : Nat) : Parser BitExpr := do
  let start ← offset
  let first ← simpleExpr nested
  let rounds ← remaining
  bitChain nested start minimum rounds (.simple first)

/-- NOT, if it negates the predicate that follows. -/
def predicateNegation? : Parser (Option Span) := do
  let negated ← atKeyword .NOT
  let following ← kindAhead 1
  match following with
  | .keyword .IN | .keyword .BETWEEN | .keyword .LIKE =>
      if negated then
        let span ← terminal
        return some span
      else
        return none
  | _ => return none

/-- `IN subquery` or `IN ( expr (, expr)* )` -/
def membership (nested : Nested) (start : Nat) (operand : BitExpr) (negation : Option Span) :
    Parser Predicate := do
  advance
  let opened ← atSymbol .leftParen
  let following ← kindAhead 1
  if opened && following = .keyword .SELECT then
    let query ← subquery nested
    let span ← spanFrom start
    return .inSubquery span operand negation query
  else
    let leftParen ← expectSymbol .leftParen
    let items ← exprList nested
    let rightParen ← expectSymbol .rightParen
    let span ← spanFrom start
    return .inList span operand negation leftParen items rightParen

/-- `BETWEEN bitExpr AND predicate` -/
def range (nested : Nested) (start : Nat) (operand : BitExpr) (negation : Option Span) :
    Parser Predicate := do
  advance
  let lower ← nested.bitExpr 0
  let _ ← expectKeyword .AND
  let upper ← nested.predicate
  let span ← spanFrom start
  return .between span operand negation lower upper

/-- `(ESCAPE simpleExpr)?` -/
def escape? (nested : Nested) : Parser (Option SimpleExpr) := do
  if ← atKeyword .ESCAPE then
    advance
    let escape ← nested.simpleExpr
    return some escape
  else
    return none

/-- `LIKE simpleExpr (ESCAPE simpleExpr)?` -/
def pattern (nested : Nested) (start : Nat) (operand : BitExpr) (negation : Option Span) :
    Parser Predicate := do
  advance
  let pattern ← nested.simpleExpr
  let escape ← escape? nested
  let span ← spanFrom start
  return .like span operand negation pattern escape

/-- A bit expression, or a test of one. -/
def predicate (nested : Nested) : Parser Predicate := do
  let start ← offset
  let operand ← bitExpr nested 0
  let negation ← predicateNegation?
  match ← kindAhead 0 with
  | .keyword .IN => membership nested start operand negation
  | .keyword .BETWEEN => range nested start operand negation
  | .keyword .LIKE => pattern nested start operand negation
  | _ => return .bitExpr operand

end AnnotatedSql.Grammar.Parse
