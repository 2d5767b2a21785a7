/-
This file parses function calls.
-/

import AnnotatedSql.Grammar.Parse.Name

namespace AnnotatedSql.Grammar.Parse

/-- Names of aggregates that are not keywords. -/
def plainAggregates : List String := ["EVERY", "BIT_XOR", "STDDEV", "VARIANCE"]

/-- A token that names an aggregate when a parenthesis follows. -/
def namesAggregate (token : Token) : Bool :=
  match token.kind with
  | .keyword word => word.isUnreserved
  | .identifier => plainAggregates.any fun name => name.toList == token.text.upper
  | _ => false

/-- `expr (, expr)*` with the commas kept. -/
def argumentsUpTo (nested : Nested) : Nat → Parser (List AggregationArgument)
  | 0 => do
      let first ← nested.expr 0
      return [.expr first]
  | rounds + 1 => do
      let first ← nested.expr 0
      if ← atSymbol .comma then
        let comma ← terminal
        let others ← argumentsUpTo nested rounds
        return .expr first :: .comma comma :: others
      else
        return [.expr first]

/-- `(expr (, expr)* | *)?` -/
def aggregationArguments (nested : Nested) : Parser (List AggregationArgument) := do
  if ← atSymbol .star then
    let star ← terminal
    return [.asterisk star]
  else if ← atSymbol .rightParen then
    return []
  else
    let rounds ← remaining
    argumentsUpTo nested rounds

/-- `name ( DISTINCT? arguments )` -/
def aggregationCall (nested : Nested) : Parser AggregationCall := do
  let start ← offset
  let name ← terminal
  let leftParen ← expectSymbol .leftParen
  let distinct ← keyword? .DISTINCT
  let arguments ← aggregationArguments nested
  let rightParen ← expectSymbol .rightParen
  let span ← spanFrom start
  return ⟨span, name, leftParen, distinct, arguments, rightParen⟩

/-- The words of a data type's name after the first. -/
def skipIdentifiers : Nat → Parser Unit
  | 0 => return ()
  | rounds + 1 => do
      if ← atKind .identifier then
        advance
        skipIdentifiers rounds
      else
        return ()

/-- `( length (, scale)? )` after the name of a data type. -/
def dataTypeLength : Parser Unit := do
  advance
  let _ ← expectKind .number
  if ← atSymbol .comma then
    advance
    let _ ← expectKind .number
  let _ ← expectSymbol .rightParen

/-- One or more words and an optional length. -/
def dataType : Parser DataType := do
  let start ← offset
  if ← atKind .identifier then
    let rounds ← remaining
    skipIdentifiers rounds
    let name ← spanFrom start
    if ← atSymbol .leftParen then
      dataTypeLength
    let span ← spanFrom start
    return ⟨span, name⟩
  else
    fail .dataType

/-- `CAST ( expr AS data type )` -/
def castCall (nested : Nested) : Parser CastCall := do
  let start ← offset
  advance
  let _ ← expectSymbol .leftParen
  let operand ← nested.expr 0
  let _ ← expectKeyword .AS
  let target ← dataType
  let _ ← expectSymbol .rightParen
  let span ← spanFrom start
  return ⟨span, operand, target⟩

/-- A further argument, if the keyword or a comma leads to it. -/
def argumentAfter? (nested : Nested) (word : Keyword) : Parser (Option Expr) := do
  let worded ← atKeyword word
  let separated ← atSymbol .comma
  if worded || separated then
    advance
    let argument ← nested.expr 0
    return some argument
  else
    return none

/-- `SUBSTRING ( expr ((FROM | ,) expr ((FOR | ,) expr)?)? )` -/
def substringCall (nested : Nested) : Parser SpecialCall := do
  let start ← offset
  advance
  let _ ← expectSymbol .leftParen
  let first ← nested.expr 0
  let second ← argumentAfter? nested .FROM
  let third ← if second.isSome then argumentAfter? nested .FOR else pure none
  let _ ← expectSymbol .rightParen
  let span ← spanFrom start
  return .substring span (first :: second.toList ++ third.toList)

/-- `EXTRACT ( identifier FROM expr )` -/
def extractCall (nested : Nested) : Parser SpecialCall := do
  let start ← offset
  advance
  let _ ← expectSymbol .leftParen
  let field ← identifier
  let _ ← expectKeyword .FROM
  let source ← nested.expr 0
  let _ ← expectSymbol .rightParen
  let span ← spanFrom start
  return .extract span field source

/-- Skips LEADING, TRAILING or BOTH. -/
def skipTrimSide : Parser Unit := do
  match ← kindAhead 0 with
  | .keyword .LEADING | .keyword .TRAILING | .keyword .BOTH => advance
  | _ => return ()

/-- What is trimmed, unless FROM or the end of the call comes first. -/
def trimmed? (nested : Nested) : Parser (Option Expr) := do
  match ← kindAhead 0 with
  | .keyword .FROM | .symbol .rightParen => return none
  | _ =>
      let argument ← nested.expr 0
      return some argument

/-- `(FROM expr)?` -/
def trimSource? (nested : Nested) : Parser (Option Expr) := do
  if ← atKeyword .FROM then
    advance
    let argument ← nested.expr 0
    return some argument
  else
    return none

/-- `TRIM ( (LEADING | TRAILING | BOTH)? expr? (FROM expr)? )` -/
def trimCall (nested : Nested) : Parser SpecialCall := do
  let start ← offset
  advance
  let _ ← expectSymbol .leftParen
  skipTrimSide
  let first ← trimmed? nested
  let second ← trimSource? nested
  let _ ← expectSymbol .rightParen
  let span ← spanFrom start
  return .trim span (first.toList ++ second.toList)

/-- `(expr (, expr)* | *)?` with the star kept apart. -/
def regularArguments (nested : Nested) : Parser (List Expr × Option Span) := do
  if ← atSymbol .star then
    let star ← terminal
    return ([], some star)
  else if ← atSymbol .rightParen then
    return ([], none)
  else
    let arguments ← exprList nested
    return (arguments, none)

/-- `identifier ( arguments )` -/
def regularCall (nested : Nested) : Parser RegularCall := do
  let start ← offset
  let name ← identifier
  let _ ← expectSymbol .leftParen
  let arguments ← regularArguments nested
  let _ ← expectSymbol .rightParen
  let span ← spanFrom start
  return ⟨span, name, arguments.1, arguments.2⟩

def aggregation (nested : Nested) : Parser SimpleExpr := do
  let call ← aggregationCall nested
  return .call ⟨call.span, some call, none, none⟩

def special (call : SpecialCall) : SimpleExpr := .call ⟨call.span, none, some call, none⟩

def regular (nested : Nested) : Parser SimpleExpr := do
  let call ← regularCall nested
  return .call ⟨call.span, none, none, some call⟩

end AnnotatedSql.Grammar.Parse
