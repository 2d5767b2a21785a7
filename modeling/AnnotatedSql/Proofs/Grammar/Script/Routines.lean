/-
This file writes down the steps of each routine.
-/

import AnnotatedSql.Proofs.Grammar.Script.Basic

namespace AnnotatedSql.Grammar.Script

/-! ### Names and lists -/

def identifier : Script Identifier := do
  let token ← current
  match token.kind with
  | .identifier | .quotedIdentifier =>
      advance
      return ⟨token.span, none⟩
  | .keyword word =>
      if word.isUnreserved then
        advance
        return ⟨token.span, some token.span⟩
      else
        fail .identifier
  | _ => fail .identifier

def qualifiedName : Script QualifiedName := do
  let start ← offset
  let first ← call .identifier
  let dotted ← atSymbol .dot
  let following ← kindAhead 1
  if dotted && following.isName then
    advance
    let name ← call .identifier
    let span ← spanFrom start
    return ⟨span, some ⟨first.span, first⟩, name⟩
  else
    return ⟨first.span, none, first⟩

def label : Script Label := do
  let name ← call .identifier
  return ⟨name.span, name⟩

def itemLabel? : Script (Option Label) := do
  if ← atKeyword .AS then
    advance
    let name ← label
    return some name
  else
    let following ← kindAhead 0
    if following.isName then
      let name ← label
      return some name
    else
      return none

/-- The use of the routine for one item of a list. -/
def item : (item : Item) → Script item.Node
  | .selectItem => call .selectItem
  | .name => call .qualifiedName
  | .orderItem => call .orderItem
  | .expr => call (.expr 0)

/-- One item and, after a comma, the others. -/
def list (each : Item) : Script (List each.Node) := do
  let first ← item each
  if ← atSymbol .comma then
    advance
    let others ← call (.list each)
    return first :: others
  else
    return [first]

def nameList : Script NameList := do
  let start ← offset
  let names ← call (.list .name)
  let span ← spanFrom start
  return ⟨span, names⟩

def subquery : Script Subquery := do
  let start ← offset
  let leftParen ← expectSymbol .leftParen
  let select ← call .select
  let rightParen ← expectSymbol .rightParen
  let span ← spanFrom start
  return ⟨span, leftParen, select, rightParen⟩

/-! ### Function calls -/

/-- One argument and, after a comma, the others. -/
def arguments : Script (List AggregationArgument) := do
  let first ← call (.expr 0)
  if ← atSymbol .comma then
    let comma ← terminal
    let others ← call .arguments
    return .expr first :: .comma comma :: others
  else
    return [.expr first]

def aggregationArguments : Script (List AggregationArgument) := do
  if ← atSymbol .star then
    let star ← terminal
    return [.asterisk star]
  else if ← atSymbol .rightParen then
    return []
  else
    call .arguments

def aggregationCall : Script AggregationCall := do
  let start ← offset
  let name ← terminal
  let leftParen ← expectSymbol .leftParen
  let distinct ← keyword? .DISTINCT
  let arguments ← aggregationArguments
  let rightParen ← expectSymbol .rightParen
  let span ← spanFrom start
  return ⟨span, name, leftParen, distinct, arguments, rightParen⟩

/-- One word of a data type's name and those that follow. -/
def words : Script Unit := do
  if ← atKind .identifier then
    advance
    call .words
  else
    return ()

def dataTypeLength : Script Unit := do
  advance
  let _ ← expectKind .number
  if ← atSymbol .comma then
    advance
    let _ ← expectKind .number
  let _ ← expectSymbol .rightParen

/-- The first round of the loop over the words takes place in any case. -/
def dataType : Script DataType := do
  let start ← offset
  if ← atKind .identifier then
    advance
    call .words
    let name ← spanFrom start
    if ← atSymbol .leftParen then
      dataTypeLength
    let span ← spanFrom start
    return ⟨span, name⟩
  else
    fail .dataType

def castCall : Script CastCall := do
  let start ← offset
  advance
  let _ ← expectSymbol .leftParen
  let operand ← call (.expr 0)
  let _ ← expectKeyword .AS
  let target ← call .dataType
  let _ ← expectSymbol .rightParen
  let span ← spanFrom start
  return ⟨span, operand, target⟩

def argumentAfter? (word : Keyword) : Script (Option Expr) := do
  let worded ← atKeyword word
  let separated ← atSymbol .comma
  if worded || separated then
    advance
    let argument ← call (.expr 0)
    return some argument
  else
    return none

def substringCall : Script SpecialCall := do
  let start ← offset
  advance
  let _ ← expectSymbol .leftParen
  let first ← call (.expr 0)
  let second ← argumentAfter? .FROM
  let third ← if second.isSome then argumentAfter? .FOR else pure none
  let _ ← expectSymbol .rightParen
  let span ← spanFrom start
  return .substring span (first :: second.toList ++ third.toList)

def extractCall : Script SpecialCall := do
  let start ← offset
  advance
  let _ ← expectSymbol .leftParen
  let field ← call .identifier
  let _ ← expectKeyword .FROM
  let source ← call (.expr 0)
  let _ ← expectSymbol .rightParen
  let span ← spanFrom start
  return .extract span field source

def skipTrimSide : Script Unit := do
  match ← kindAhead 0 with
  | .keyword .LEADING | .keyword .TRAILING | .keyword .BOTH => advance
  | _ => return ()

def trimmed? : Script (Option Expr) := do
  match ← kindAhead 0 with
  | .keyword .FROM | .symbol .rightParen => return none
  | _ =>
      let argument ← call (.expr 0)
      return some argument

def trimSource? : Script (Option Expr) := do
  if ← atKeyword .FROM then
    advance
    let argument ← call (.expr 0)
    return some argument
  else
    return none

def trimCall : Script SpecialCall := do
  let start ← offset
  advance
  let _ ← expectSymbol .leftParen
  skipTrimSide
  let first ← trimmed?
  let second ← trimSource?
  let _ ← expectSymbol .rightParen
  let span ← spanFrom start
  return .trim span (first.toList ++ second.toList)

def regularArguments : Script (List Expr × Option Span) := do
  if ← atSymbol .star then
    let star ← terminal
    return ([], some star)
  else if ← atSymbol .rightParen then
    return ([], none)
  else
    let arguments ← call (.list .expr)
    return (arguments, none)

def regularCall : Script RegularCall := do
  let start ← offset
  let name ← call .identifier
  let _ ← expectSymbol .leftParen
  let arguments ← regularArguments
  let _ ← expectSymbol .rightParen
  let span ← spanFrom start
  return ⟨span, name, arguments.1, arguments.2⟩

/-! ### Simple expressions -/

def literal : Script SimpleExpr := do
  let kind ← kindAhead 0
  let span ← terminal
  return .literal (Parse.literalOf kind span)

def negativeNumber : Script SimpleExpr := do
  let start ← offset
  advance
  advance
  let span ← spanFrom start
  return .literal (Parse.literalOf .number span)

def marker : Script SimpleExpr := do
  let span ← terminal
  return .marker span

def existence : Script SimpleExpr := do
  let start ← offset
  let word ← terminal
  let query ← call .subquery
  let span ← spanFrom start
  return .subquery span (some word) query

def bareSubquery : Script SimpleExpr := do
  let query ← call .subquery
  return .subquery query.span none query

def row : Script SimpleExpr := do
  let start ← offset
  advance
  let items ← call (.list .expr)
  let _ ← expectSymbol .rightParen
  let span ← spanFrom start
  return .row span items

def caseBranch : Script CaseBranch := do
  let start ← offset
  advance
  let condition ← call (.expr 0)
  let _ ← expectKeyword .THEN
  let result ← call (.expr 0)
  let span ← spanFrom start
  return ⟨span, condition, result⟩

/-- One branch of a CASE and those that follow. -/
def caseBranches : Script (List CaseBranch) := do
  if ← atKeyword .WHEN then
    let first ← caseBranch
    let others ← call .caseBranches
    return first :: others
  else
    return []

def caseOperand? : Script (Option SimpleExpr) := do
  if ← atKeyword .WHEN then
    return none
  else
    let operand ← call .simpleExpr
    return some operand

def otherwise? : Script (Option Expr) := do
  if ← atKeyword .ELSE then
    advance
    let result ← call (.expr 0)
    return some result
  else
    return none

def caseExpr : Script SimpleExpr := do
  let start ← offset
  advance
  let operand ← caseOperand?
  let branches ← call .caseBranches
  if branches.isEmpty then
    fail (.keyword .WHEN)
  else
    let otherwise ← otherwise?
    let _ ← expectKeyword .END
    let span ← spanFrom start
    return .caseOf span operand branches otherwise

def unary : Script SimpleExpr := do
  let start ← offset
  let operator ← terminal
  let operand ← call .simpleExpr
  let span ← spanFrom start
  return .unary span operator operand

def aggregation : Script SimpleExpr := do
  let call ← call .aggregation
  return .call ⟨call.span, some call, none, none⟩

def regular : Script SimpleExpr := do
  let call ← call .regular
  return .call ⟨call.span, none, none, some call⟩

def nameOrCall : Script SimpleExpr := do
  let token ← current
  let following ← kindAhead 1
  if following = .symbol .leftParen then
    if Parse.namesAggregate token then aggregation else regular
  else
    let name ← call .qualifiedName
    return .column name

def specialCall (word : Keyword) : Script SimpleExpr := do
  let following ← kindAhead 1
  if following = .symbol .leftParen then
    match word with
    | .CAST =>
        let call ← call .cast
        return Parse.special (.cast call)
    | .SUBSTRING => Parse.special <$> call .substring
    | .EXTRACT => Parse.special <$> call .extract
    | _ => Parse.special <$> call .trim
  else
    fail .expression

def parenthesis : Script SimpleExpr := do
  let following ← kindAhead 1
  if following = .keyword .SELECT then bareSubquery else row

def minus : Script SimpleExpr := do
  let following ← kindAhead 1
  if following = .number then negativeNumber else unary

def simpleExpr : Script SimpleExpr := do
  match ← kindAhead 0 with
  | .symbol .question => marker
  | .symbol .minus => minus
  | .symbol .leftParen => parenthesis
  | .symbol .plus | .symbol .tilde | .symbol .bang | .keyword .NOT => unary
  | .string | .number | .hexadecimal | .bitValue
  | .keyword .TRUE | .keyword .FALSE | .keyword .NULL => literal
  | .keyword .EXISTS => existence
  | .keyword .CASE => call .caseExpr
  | .keyword .CAST => specialCall .CAST
  | .keyword .SUBSTRING => specialCall .SUBSTRING
  | .keyword .EXTRACT => specialCall .EXTRACT
  | .keyword .TRIM => specialCall .TRIM
  | .keyword word => if word.isUnreserved then nameOrCall else fail .expression
  | .identifier | .quotedIdentifier => nameOrCall
  | _ => fail .expression

/-! ### Bit expressions and predicates -/

/-- One operator with its right operand and those that follow. -/
def bitChain (start minimum : Nat) (left : BitExpr) : Script BitExpr := do
  match Precedence.bit? (← kindAhead 0) with
  | none => return left
  | some level =>
      if level < minimum then
        return left
      else
        let operator ← terminal
        let right ← call (.bitExpr (level + 1))
        let span ← spanFrom start
        call (.bitChain start minimum (.binary span left operator right))

def bitExpr (minimum : Nat) : Script BitExpr := do
  let start ← offset
  let first ← call .simpleExpr
  call (.bitChain start minimum (.simple first))

def predicateNegation? : Script (Option Span) := do
  let negated ← atKeyword .NOT
  let following ← kindAhead 1
  match following with
  | .keyword .IN | .keyword .BETWEEN | .keyword .LIKE =>
      if negated then
        let span ← terminal
        return some span
      else
        return none
  | _ => return none

def membership (start : Nat) (operand : BitExpr) (negation : Option Span) : Script Predicate := do
  advance
  let opened ← atSymbol .leftParen
  let following ← kindAhead 1
  if opened && following = .keyword .SELECT then
    let query ← call .subquery
    let span ← spanFrom start
    return .inSubquery span operand negation query
  else
    let leftParen ← expectSymbol .leftParen
    let items ← call (.list .expr)
    let rightParen ← expectSymbol .rightParen
    let span ← spanFrom start
    return .inList span operand negation leftParen items rightParen

def range (start : Nat) (operand : BitExpr) (negation : Option Span) : Script Predicate := do
  advance
  let lower ← call (.bitExpr 0)
  let _ ← expectKeyword .AND
  let upper ← call .predicate
  let span ← spanFrom start
  return .between span operand negation lower upper

def escape? : Script (Option SimpleExpr) := do
  if ← atKeyword .ESCAPE then
    advance
    let escape ← call .simpleExpr
    return some escape
  else
    return none

def pattern (start : Nat) (operand : BitExpr) (negation : Option Span) : Script Predicate := do
  advance
  let pattern ← call .simpleExpr
  let escape ← escape?
  let span ← spanFrom start
  return .like span operand negation pattern escape

def predicate : Script Predicate := do
  let start ← offset
  let operand ← call (.bitExpr 0)
  let negation ← predicateNegation?
  match ← kindAhead 0 with
  | .keyword .IN => membership start operand negation
  | .keyword .BETWEEN => range start operand negation
  | .keyword .LIKE => pattern start operand negation
  | _ => return .bitExpr operand

/-! ### Comparisons and connectives -/

def truthTest (start : Nat) (operand : BooleanPrimary) : Script BooleanPrimary := do
  advance
  let negation ← keyword? .NOT
  match ← kindAhead 0 with
  | .keyword .TRUE | .keyword .FALSE | .keyword .UNKNOWN | .keyword .NULL =>
      let value ← terminal
      let span ← spanFrom start
      return .isTest span operand negation value
  | _ => fail .truthValue

def comparison (start : Nat) (left : BooleanPrimary) : Script BooleanPrimary := do
  let operator ← terminal
  match ← kindAhead 0 with
  | .keyword .ALL | .keyword .ANY | .keyword .SOME =>
      let quantifier ← terminal
      let query ← call .subquery
      let span ← spanFrom start
      return .quantified span left operator quantifier query
  | _ =>
      let right ← call .predicate
      let span ← spanFrom start
      return .comparison span left operator right

/-- One test or comparison and those that follow. -/
def primaryChain (start : Nat) (left : BooleanPrimary) : Script BooleanPrimary := do
  let kind ← kindAhead 0
  if kind = .keyword .IS then
    let test ← truthTest start left
    call (.primaryChain start test)
  else if Precedence.isComparison kind then
    let compared ← comparison start left
    call (.primaryChain start compared)
  else
    return left

def booleanPrimary : Script BooleanPrimary := do
  let start ← offset
  let first ← call .predicate
  call (.primaryChain start (.predicate first))

def primaryExpr : Script Expr := do
  let primary ← call .booleanPrimary
  return .primary primary

def negated : Script Expr := do
  let start ← offset
  let operator ← terminal
  let operand ← call (.expr Precedence.negation)
  let span ← spanFrom start
  return .not span operator operand

/-- What is tried for a parenthesis around a whole operand. -/
def enclosed? : Script (Option Expr) := do
  let start ← offset
  advance
  let inner ← call (.expr 0)
  let closed ← atSymbol .rightParen
  if closed then
    advance
    let following ← kindAhead 0
    if Precedence.continuesOperand following then
      return none
    else
      let span ← spanFrom start
      return some (.paren span inner)
  else
    return none

/-- Tries a parenthesis that was not given up before. -/
def parenthesised? : Script (Option Expr) :=
  look fun view => if view.isRejected then give none else attempt .parenthesis give

def parenthesisedOrPrimary : Script Expr := do
  match ← parenthesised? with
  | some expr => return expr
  | none => primaryExpr

def operand : Script Expr := do
  match ← kindAhead 0 with
  | .keyword .NOT | .symbol .bang => negated
  | .symbol .leftParen =>
      let following ← kindAhead 1
      if following = .keyword .SELECT then
        primaryExpr
      else
        parenthesisedOrPrimary
  | _ => primaryExpr

/-- One connective with its right operand and those that follow. -/
def logicalChain (start minimum : Nat) (left : Expr) : Script Expr := do
  let kind ← kindAhead 0
  match Precedence.logical? kind with
  | none => return left
  | some level =>
      if level < minimum then
        return left
      else
        let operator ← terminal
        let right ← call (.expr (level + 1))
        let span ← spanFrom start
        if kind = .keyword .XOR then
          call (.logicalChain start minimum (.xor span left right))
        else
          call (.logicalChain start minimum (.logical span left operator right))

def expr (minimum : Nat) : Script Expr := do
  let start ← offset
  let first ← call .operand
  call (.logicalChain start minimum first)

/-! ### Items and clauses -/

def qualifiedShorthand : Script SelectItem := do
  let start ← offset
  let owner ← label
  advance
  advance
  let span ← spanFrom start
  return .qualifiedShorthand span owner

def exprItem : Script SelectItem := do
  let start ← offset
  let expr ← call (.expr 0)
  let itemLabel ← call .itemLabel
  let span ← spanFrom start
  return .expr span expr itemLabel

def selectItem : Script SelectItem := do
  let first ← kindAhead 0
  let second ← kindAhead 1
  let third ← kindAhead 2
  if first = .symbol .star then
    let star ← terminal
    return .shorthand star
  else if first.isName && second = .symbol .dot && third = .symbol .star then
    qualifiedShorthand
  else
    exprItem

def selectList : Script SelectList := do
  let start ← offset
  let items ← call (.list .selectItem)
  let span ← spanFrom start
  return ⟨span, items⟩

/-- What is tried for a name that makes up a whole order item. -/
def wholeName? : Script (Option QualifiedName) := do
  let name ← call .qualifiedName
  let following ← kindAhead 0
  if Precedence.endsOrderItem following then return some name else return none

def orderColumn? : Script (Option QualifiedName) := do
  let kind ← kindAhead 0
  if kind.isName then attempt .column give else return none

def orderTarget : Script (Option QualifiedName × Option Span × Option Expr) := do
  let kind ← kindAhead 0
  let following ← kindAhead 1
  if kind = .number && Precedence.endsOrderItem following then
    let number ← terminal
    return (none, some number, none)
  else
    match ← orderColumn? with
    | some column => return (some column, none, none)
    | none =>
        let expr ← call (.expr 0)
        return (none, none, some expr)

def direction : Script (Option Span × Option Span) := do
  match ← keyword? .ASC with
  | some ascending => return (some ascending, none)
  | none =>
      let descending ← keyword? .DESC
      return (none, descending)

def orderItem : Script OrderItem := do
  let start ← offset
  let target ← orderTarget
  let directions ← direction
  let span ← spanFrom start
  return ⟨span, target.1, target.2.1, target.2.2, directions.1, directions.2⟩

def orderClause? (word : Keyword) : Script (Option OrderClause) := do
  if ← atKeyword word then
    let start ← offset
    advance
    let _ ← expectKeyword .BY
    let items ← call (.list .orderItem)
    let span ← spanFrom start
    return some ⟨span, items⟩
  else
    return none

def conditionClause? (word : Keyword) : Script (Option ConditionClause) := do
  if ← atKeyword word then
    let start ← offset
    advance
    let expr ← call (.expr 0)
    let span ← spanFrom start
    return some ⟨span, expr⟩
  else
    return none

def tables? : Script (Option NameList) := do
  if ← atKeyword .FROM then
    advance
    let tables ← call .nameList
    return some tables
  else
    return none

def distinct? : Script (Option Span) := do
  match ← keyword? .DISTINCT with
  | some span => return some span
  | none =>
      let _ ← keyword? .ALL
      return none

def select : Script Select := do
  let start ← offset
  let _ ← expectKeyword .SELECT
  let distinct ← distinct?
  let selectList ← call .selectList
  let tables ← tables?
  let condition ← conditionClause? .WHERE
  let grouping ← orderClause? .GROUP
  let having ← conditionClause? .HAVING
  let ordering ← orderClause? .ORDER
  let span ← spanFrom start
  return ⟨span, distinct, selectList, tables, condition, grouping, having, ordering⟩

def statement : Script Select := do
  let result ← call .select
  if ← atSymbol .semicolon then
    advance
  if ← atKind .endOfInput then
    return result
  else
    fail .endOfInput

end Script

def Trial.body : (trial : Trial) → Script (Option trial.Found)
  | .parenthesis => Script.enclosed?
  | .column => Script.wholeName?

def Routine.body : (routine : Routine) → Script routine.Result
  | .statement => Script.statement
  | .select => Script.select
  | .selectList => Script.selectList
  | .nameList => Script.nameList
  | .list item => Script.list item
  | .selectItem => Script.selectItem
  | .itemLabel => Script.itemLabel?
  | .orderItem => Script.orderItem
  | .expr minimum => Script.expr minimum
  | .logicalChain start minimum left => Script.logicalChain start minimum left
  | .operand => Script.operand
  | .booleanPrimary => Script.booleanPrimary
  | .primaryChain start left => Script.primaryChain start left
  | .predicate => Script.predicate
  | .bitExpr minimum => Script.bitExpr minimum
  | .bitChain start minimum left => Script.bitChain start minimum left
  | .simpleExpr => Script.simpleExpr
  | .subquery => Script.subquery
  | .caseExpr => Script.caseExpr
  | .caseBranches => Script.caseBranches
  | .aggregation => Script.aggregationCall
  | .arguments => Script.arguments
  | .cast => Script.castCall
  | .substring => Script.substringCall
  | .extract => Script.extractCall
  | .trim => Script.trimCall
  | .regular => Script.regularCall
  | .dataType => Script.dataType
  | .words => Script.words
  | .qualifiedName => Script.qualifiedName
  | .identifier => Script.identifier

end AnnotatedSql.Grammar
