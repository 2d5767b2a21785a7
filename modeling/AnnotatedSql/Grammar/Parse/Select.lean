/-
This file parses a SELECT with its clauses.
-/

import AnnotatedSql.Grammar.Parse.Expr

namespace AnnotatedSql.Grammar.Parse

/-- `owner . *` -/
def qualifiedShorthand : Parser SelectItem := do
  let start ← offset
  let owner ← label
  advance
  advance
  let span ← spanFrom start
  return .qualifiedShorthand span owner

/-- An expression and its label. -/
def exprItem (nested : Nested) : Parser SelectItem := do
  let start ← offset
  let expr ← nested.expr 0
  let itemLabel ← itemLabel?
  let span ← spanFrom start
  return .expr span expr itemLabel

/-- `*`, `owner.*` or an expression. -/
def selectItem (nested : Nested) : Parser SelectItem := do
  let first ← kindAhead 0
  let second ← kindAhead 1
  let third ← kindAhead 2
  if first = .symbol .star then
    let star ← terminal
    return .shorthand star
  else if first.isName && second = .symbol .dot && third = .symbol .star then
    qualifiedShorthand
  else
    exprItem nested

def selectList (nested : Nested) : Parser SelectList := do
  let start ← offset
  let items ← commaList (selectItem nested)
  let span ← spanFrom start
  return ⟨span, items⟩

/-- The name that makes up a whole order item; without one the cursor stays. -/
def orderColumn? : Parser (Option QualifiedName) := do
  let before ← get
  if before.current.kind.isName then
    let name ← qualifiedName
    let following ← kindAhead 0
    if Precedence.endsOrderItem following then
      return some name
    else
      modify fun later => { before with rejected := later.rejected }
      return none
  else
    return none

/-- An order item without its direction. -/
def orderTarget (nested : Nested) :
    Parser (Option QualifiedName × Option Span × Option Expr) := do
  let kind ← kindAhead 0
  let following ← kindAhead 1
  if kind = .number && Precedence.endsOrderItem following then
    let number ← terminal
    return (none, some number, none)
  else
    match ← orderColumn? with
    | some column => return (some column, none, none)
    | none =>
        let expr ← nested.expr 0
        return (none, none, some expr)

/-- `(ASC | DESC)?` -/
def direction : Parser (Option Span × Option Span) := do
  match ← keyword? .ASC with
  | some ascending => return (some ascending, none)
  | none =>
      let descending ← keyword? .DESC
      return (none, descending)

/-- `(name | number | expr) (ASC | DESC)?` -/
def orderItem (nested : Nested) : Parser OrderItem := do
  let start ← offset
  let target ← orderTarget nested
  let directions ← direction
  let span ← spanFrom start
  return ⟨span, target.1, target.2.1, target.2.2, directions.1, directions.2⟩

/-- `word BY item (, item)*`, if the word is there. -/
def orderClause? (nested : Nested) (word : Keyword) : Parser (Option OrderClause) := do
  if ← atKeyword word then
    let start ← offset
    advance
    let _ ← expectKeyword .BY
    let items ← commaList (orderItem nested)
    let span ← spanFrom start
    return some ⟨span, items⟩
  else
    return none

/-- `word expr`, if the word is there. -/
def conditionClause? (nested : Nested) (word : Keyword) : Parser (Option ConditionClause) := do
  if ← atKeyword word then
    let start ← offset
    advance
    let expr ← nested.expr 0
    let span ← spanFrom start
    return some ⟨span, expr⟩
  else
    return none

/-- `FROM name (, name)*`, if the word is there. -/
def tables? : Parser (Option NameList) := do
  if ← atKeyword .FROM then
    advance
    let tables ← nameList
    return some tables
  else
    return none

/-- `(DISTINCT | ALL)?`, of which only DISTINCT is kept. -/
def distinct? : Parser (Option Span) := do
  match ← keyword? .DISTINCT with
  | some span => return some span
  | none =>
      let _ ← keyword? .ALL
      return none

def select (nested : Nested) : Parser Select := do
  let start ← offset
  let _ ← expectKeyword .SELECT
  let distinct ← distinct?
  let selectList ← selectList nested
  let tables ← tables?
  let condition ← conditionClause? nested .WHERE
  let grouping ← orderClause? nested .GROUP
  let having ← conditionClause? nested .HAVING
  let ordering ← orderClause? nested .ORDER
  let span ← spanFrom start
  return ⟨span, distinct, selectList, tables, condition, grouping, having, ordering⟩

end AnnotatedSql.Grammar.Parse
