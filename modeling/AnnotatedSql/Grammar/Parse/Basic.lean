/-
This file holds the steps from which all parsers are made.
-/

import AnnotatedSql.Grammar.Cursor
import AnnotatedSql.Grammar.SyntaxError
import AnnotatedSql.Grammar.Tree

namespace AnnotatedSql.Grammar

/-- A parser moves a cursor and gives a value or an error; the cursor stays where it is after an
error. -/
abbrev Parser (Value : Type) := ExceptT SyntaxError (StateM Cursor) Value

namespace Parse

def current : Parser Token := return (← get).current

/-- The kind of the token that lies the given number of tokens ahead. -/
def kindAhead (distance : Nat) : Parser TokenKind := return ((← get).ahead distance).kind

/-- The offset at which the current token starts. -/
def offset : Parser Nat := return (← get).current.span.start

def advance : Parser Unit := modify Cursor.advance

/-- Consumes the current token and gives its span. -/
def terminal : Parser Span := do
  let token ← current
  advance
  return token.span

/-- The span from an offset to the end of the last consumed token. -/
def spanFrom (start : Nat) : Parser Span := return (← get).spanFrom start

/-- The number of tokens that are left, which bounds every repetition. -/
def remaining : Parser Nat := return (← get).position

def fail {Value : Type} (expected : Expected) : Parser Value := do
  throw (SyntaxError.atToken expected (← current))

def atKind (kind : TokenKind) : Parser Bool := return (← get).current.kind == kind

def atSymbol (sign : Symbol) : Parser Bool := atKind (.symbol sign)

def atKeyword (word : Keyword) : Parser Bool := atKind (.keyword word)

/-- Consumes a token of the given kind. -/
def expectKind (kind : TokenKind) : Parser Span := do
  if ← atKind kind then terminal else fail (.token kind)

def expectSymbol (sign : Symbol) : Parser Span := expectKind (.symbol sign)

def expectKeyword (word : Keyword) : Parser Span := do
  if ← atKeyword word then terminal else fail (.keyword word)

/-- Consumes the keyword if it is there. -/
def keyword? (word : Keyword) : Parser (Option Span) := do
  if ← atKeyword word then
    let span ← terminal
    return some span
  else
    return none

/-- Runs a parser and gives nothing if it fails. -/
def attempt {Value : Type} (parser : Parser Value) : Parser (Option Value) := fun cursor =>
  match parser cursor with
  | (.ok value, later) => (.ok (some value), later)
  | (.error _, later) => (.ok none, later)

/-- Items with commas between them, at most the given number after the first. -/
def commaListUpTo {Item : Type} (item : Parser Item) : Nat → Parser (List Item)
  | 0 => do
      let first ← item
      return [first]
  | rounds + 1 => do
      let first ← item
      if ← atSymbol .comma then
        advance
        let others ← commaListUpTo item rounds
        return first :: others
      else
        return [first]

/-- `item (, item)*` -/
def commaList {Item : Type} (item : Parser Item) : Parser (List Item) := do
  let rounds ← remaining
  commaListUpTo item rounds

/-- The parsers of the parts that may occur inside one another.
Every use of one of them comes after a token was consumed, so the number of tokens bounds how
deep they nest. -/
structure Nested where
  expr : Nat → Parser Expr
  predicate : Parser Predicate
  bitExpr : Nat → Parser BitExpr
  simpleExpr : Parser SimpleExpr
  select : Parser Select

/-- `( select )` -/
def subquery (nested : Nested) : Parser Subquery := do
  let start ← offset
  let leftParen ← expectSymbol .leftParen
  let select ← nested.select
  let rightParen ← expectSymbol .rightParen
  let span ← spanFrom start
  return ⟨span, leftParen, select, rightParen⟩

/-- `expr (, expr)*` -/
def exprList (nested : Nested) : Parser (List Expr) := commaList (nested.expr 0)

end Parse

end AnnotatedSql.Grammar
