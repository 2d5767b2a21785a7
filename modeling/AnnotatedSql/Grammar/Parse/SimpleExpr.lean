/-
This file parses simple expressions: literals, markers, names, calls, rows, CASE and subqueries.
-/

import AnnotatedSql.Grammar.Parse.Function

namespace AnnotatedSql.Grammar.Parse

/-- The literal that a token of the given kind makes up. -/
def literalOf (kind : TokenKind) (span : Span) : Literal :=
  match kind with
  | .string => { Literal.empty span with string := some span }
  | .number => { Literal.empty span with number := some span }
  | .hexadecimal => { Literal.empty span with hexadecimal := some span }
  | .bitValue => { Literal.empty span with bitValue := some span }
  | .keyword .NULL => { Literal.empty span with null := some span }
  | _ => { Literal.empty span with boolean := some span }

def literal : Parser SimpleExpr := do
  let kind ← kindAhead 0
  let span ← terminal
  return .literal (literalOf kind span)

/-- A minus sign directly before a number belongs to the number. -/
def negativeNumber : Parser SimpleExpr := do
  let start ← offset
  advance
  advance
  let span ← spanFrom start
  return .literal (literalOf .number span)

def marker : Parser SimpleExpr := do
  let span ← terminal
  return .marker span

/-- `EXISTS subquery` -/
def existence (nested : Nested) : Parser SimpleExpr := do
  let start ← offset
  let word ← terminal
  let query ← subquery nested
  let span ← spanFrom start
  return .subquery span (some word) query

def bareSubquery (nested : Nested) : Parser SimpleExpr := do
  let query ← subquery nested
  return .subquery query.span none query

/-- `( expr (, expr)* )` -/
def row (nested : Nested) : Parser SimpleExpr := do
  let start ← offset
  advance
  let items ← exprList nested
  let _ ← expectSymbol .rightParen
  let span ← spanFrom start
  return .row span items

/-- `WHEN expr THEN expr` -/
def caseBranch (nested : Nested) : Parser CaseBranch := do
  let start ← offset
  advance
  let condition ← nested.expr 0
  let _ ← expectKeyword .THEN
  let result ← nested.expr 0
  let span ← spanFrom start
  return ⟨span, condition, result⟩

/-- As many branches as there are, at most the given number. -/
def caseBranchesUpTo (nested : Nested) : Nat → Parser (List CaseBranch)
  | 0 => return []
  | rounds + 1 => do
      if ← atKeyword .WHEN then
        let first ← caseBranch nested
        let others ← caseBranchesUpTo nested rounds
        return first :: others
      else
        return []

/-- What CASE compares with, unless it goes straight on to its branches. -/
def caseOperand? (nested : Nested) : Parser (Option SimpleExpr) := do
  if ← atKeyword .WHEN then
    return none
  else
    let operand ← nested.simpleExpr
    return some operand

/-- `(ELSE expr)?` -/
def otherwise? (nested : Nested) : Parser (Option Expr) := do
  if ← atKeyword .ELSE then
    advance
    let result ← nested.expr 0
    return some result
  else
    return none

/-- `CASE simpleExpr? (WHEN expr THEN expr)+ (ELSE expr)? END` -/
def caseExpr (nested : Nested) : Parser SimpleExpr := do
  let start ← offset
  advance
  let operand ← caseOperand? nested
  let rounds ← remaining
  let branches ← caseBranchesUpTo nested rounds
  if branches.isEmpty then
    fail (.keyword .WHEN)
  else
    let otherwise ← otherwise? nested
    let _ ← expectKeyword .END
    let span ← spanFrom start
    return .caseOf span operand branches otherwise

/-- An operator in front of its operand. -/
def unary (nested : Nested) : Parser SimpleExpr := do
  let start ← offset
  let operator ← terminal
  let operand ← nested.simpleExpr
  let span ← spanFrom start
  return .unary span operator operand

/-- A call if a parenthesis follows the name, otherwise a column. -/
def nameOrCall (nested : Nested) : Parser SimpleExpr := do
  let token ← current
  let following ← kindAhead 1
  if following = .symbol .leftParen then
    if namesAggregate token then aggregation nested else regular nested
  else
    let name ← qualifiedName
    return .column name

/-- One of the functions with a form of its own; without a parenthesis its word is reserved. -/
def specialCall (nested : Nested) (word : Keyword) : Parser SimpleExpr := do
  let following ← kindAhead 1
  if following = .symbol .leftParen then
    match word with
    | .CAST =>
        let call ← castCall nested
        return special (.cast call)
    | .SUBSTRING => special <$> substringCall nested
    | .EXTRACT => special <$> extractCall nested
    | _ => special <$> trimCall nested
  else
    fail .expression

/-- A subquery or a row. -/
def parenthesis (nested : Nested) : Parser SimpleExpr := do
  let following ← kindAhead 1
  if following = .keyword .SELECT then bareSubquery nested else row nested

/-- A negative number or a negated operand. -/
def minus (nested : Nested) : Parser SimpleExpr := do
  let following ← kindAhead 1
  if following = .number then negativeNumber else unary nested

def simpleExpr (nested : Nested) : Parser SimpleExpr := do
  match ← kindAhead 0 with
  | .symbol .question => marker
  | .symbol .minus => minus nested
  | .symbol .leftParen => parenthesis nested
  | .symbol .plus | .symbol .tilde | .symbol .bang | .keyword .NOT => unary nested
  | .string | .number | .hexadecimal | .bitValue
  | .keyword .TRUE | .keyword .FALSE | .keyword .NULL => literal
  | .keyword .EXISTS => existence nested
  | .keyword .CASE => caseExpr nested
  | .keyword .CAST => specialCall nested .CAST
  | .keyword .SUBSTRING => specialCall nested .SUBSTRING
  | .keyword .EXTRACT => specialCall nested .EXTRACT
  | .keyword .TRIM => specialCall nested .TRIM
  | .keyword word => if word.isUnreserved then nameOrCall nested else fail .expression
  | .identifier | .quotedIdentifier => nameOrCall nested
  | _ => fail .expression

end AnnotatedSql.Grammar.Parse
