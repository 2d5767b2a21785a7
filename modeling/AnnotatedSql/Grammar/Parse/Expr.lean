/-
This file parses comparisons and the logical connectives over them.
-/

import AnnotatedSql.Grammar.Parse.Predicate

namespace AnnotatedSql.Grammar.Parse

/-- `IS NOT? (TRUE | FALSE | UNKNOWN | NULL)` -/
def truthTest (start : Nat) (operand : BooleanPrimary) : Parser BooleanPrimary := do
  advance
  let negation ← keyword? .NOT
  match ← kindAhead 0 with
  | .keyword .TRUE | .keyword .FALSE | .keyword .UNKNOWN | .keyword .NULL =>
      let value ← terminal
      let span ← spanFrom start
      return .isTest span operand negation value
  | _ => fail .truthValue

/-- A comparison with a predicate, or with all or some rows of a subquery. -/
def comparison (nested : Nested) (start : Nat) (left : BooleanPrimary) :
    Parser BooleanPrimary := do
  let operator ← terminal
  match ← kindAhead 0 with
  | .keyword .ALL | .keyword .ANY | .keyword .SOME =>
      let quantifier ← terminal
      let query ← subquery nested
      let span ← spanFrom start
      return .quantified span left operator quantifier query
  | _ =>
      let right ← nested.predicate
      let span ← spanFrom start
      return .comparison span left operator right

/-- Extends a primary by tests and comparisons, at most the given number. -/
def primaryChain (nested : Nested) (start : Nat) : Nat → BooleanPrimary → Parser BooleanPrimary
  | 0, left => return left
  | rounds + 1, left => do
      let kind ← kindAhead 0
      if kind = .keyword .IS then
        let test ← truthTest start left
        primaryChain nested start rounds test
      else if Precedence.isComparison kind then
        let compared ← comparison nested start left
        primaryChain nested start rounds compared
      else
        return left

def booleanPrimary (nested : Nested) : Parser BooleanPrimary := do
  let start ← offset
  let first ← predicate nested
  let rounds ← remaining
  primaryChain nested start rounds (.predicate first)

/-- `( expr )`, if no operator below the logical level follows. -/
def enclosed? (nested : Nested) : Parser (Option Expr) := do
  let start ← offset
  advance
  let inner ← nested.expr 0
  let closed ← atSymbol .rightParen
  if closed then
    advance
    let following ← kindAhead 0
    if Precedence.continuesOperand following then
      return none
    else
      let span ← spanFrom start
      return some (.paren span inner)
  else
    return none

/-- Whether a parenthesis that was given up once is tried again. -/
inductive Retry
  | never
  | always
deriving DecidableEq, Repr

/-- Tries `( expr )` as a whole operand and comes back to the same place without it. -/
def parenthesised? (retry : Retry) (nested : Nested) : Parser (Option Expr) := do
  let before ← get
  if retry = .never && before.isRejected then
    return none
  else
    match ← attempt (enclosed? nested) with
    | some (some expr) => return some expr
    | _ =>
        modify fun later => before.giveUp later
        return none

def primaryExpr (nested : Nested) : Parser Expr := do
  let primary ← booleanPrimary nested
  return .primary primary

/-- `(NOT | !) expr` -/
def negated (nested : Nested) : Parser Expr := do
  let start ← offset
  let operator ← terminal
  let operand ← nested.expr Precedence.negation
  let span ← spanFrom start
  return .not span operator operand

/-- A parenthesis is an expression of its own if it can be, and else starts a primary. -/
def parenthesisedOrPrimary (retry : Retry) (nested : Nested) : Parser Expr := do
  match ← parenthesised? retry nested with
  | some expr => return expr
  | none => primaryExpr nested

/-- A negation, a parenthesis or a primary. -/
def operand (retry : Retry) (nested : Nested) : Parser Expr := do
  match ← kindAhead 0 with
  | .keyword .NOT | .symbol .bang => negated nested
  | .symbol .leftParen =>
      let following ← kindAhead 1
      if following = .keyword .SELECT then
        primaryExpr nested
      else
        parenthesisedOrPrimary retry nested
  | _ => primaryExpr nested

/-- Extends an operand by connectives of at least the given level, at most the given number. -/
def logicalChain (nested : Nested) (start minimum : Nat) : Nat → Expr → Parser Expr
  | 0, left => return left
  | rounds + 1, left => do
      let kind ← kindAhead 0
      match Precedence.logical? kind with
      | none => return left
      | some level =>
          if level < minimum then
            return left
          else
            let operator ← terminal
            let right ← nested.expr (level + 1)
            let span ← spanFrom start
            if kind = .keyword .XOR then
              logicalChain nested start minimum rounds (.xor span left right)
            else
              logicalChain nested start minimum rounds (.logical span left operator right)

/-- Connectives of at least the given level over operands. -/
def expr (retry : Retry) (nested : Nested) (minimum : Nat) : Parser Expr := do
  let start ← offset
  let first ← operand retry nested
  let rounds ← remaining
  logicalChain nested start minimum rounds first

end AnnotatedSql.Grammar.Parse
