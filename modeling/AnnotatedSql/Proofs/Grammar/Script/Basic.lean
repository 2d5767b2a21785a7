/-
This file writes a parser down as the steps it takes one after another, with every use of a routine
left as a step of its own.
-/

import AnnotatedSql.Grammar.Parse

namespace AnnotatedSql.Grammar

/-! ### Routines -/

/-- What may stand in a list with commas between its items. -/
inductive Item
  | selectItem
  | name
  | orderItem
  | expr

@[reducible]
def Item.Node : Item → Type
  | .selectItem => SelectItem
  | .name => QualifiedName
  | .orderItem => OrderItem
  | .expr => Expr

/-- What is expected where an item is missing. -/
def Item.expected : Item → Expected
  | .name => .identifier
  | _ => .expression

/-- The routines that may use one another.
A round of a loop is a routine that uses itself for the rounds that follow. -/
inductive Routine
  | statement
  | select
  | selectList
  | nameList
  | list (item : Item)
  | selectItem
  | itemLabel
  | orderItem
  | expr (minimum : Nat)
  | logicalChain (start minimum : Nat) (left : Expr)
  | operand
  | booleanPrimary
  | primaryChain (start : Nat) (left : BooleanPrimary)
  | predicate
  | bitExpr (minimum : Nat)
  | bitChain (start minimum : Nat) (left : BitExpr)
  | simpleExpr
  | subquery
  | caseExpr
  | caseBranches
  | aggregation
  | arguments
  | cast
  | substring
  | extract
  | trim
  | regular
  | dataType
  | words
  | qualifiedName
  | identifier

namespace Routine

/-- What a routine gives when it succeeds. -/
@[reducible]
def Result : Routine → Type
  | statement | select => Select
  | selectList => SelectList
  | nameList => NameList
  | list item => List item.Node
  | selectItem => SelectItem
  | itemLabel => Option Label
  | orderItem => OrderItem
  | expr _ | logicalChain .. | operand => Expr
  | booleanPrimary | primaryChain .. => BooleanPrimary
  | predicate => Predicate
  | bitExpr _ | bitChain .. => BitExpr
  | simpleExpr | caseExpr => SimpleExpr
  | subquery => Subquery
  | caseBranches => List CaseBranch
  | aggregation => AggregationCall
  | arguments => List AggregationArgument
  | cast => CastCall
  | substring | extract | trim => SpecialCall
  | regular => RegularCall
  | dataType => DataType
  | words => Unit
  | qualifiedName => QualifiedName
  | identifier => Identifier

/-- The level of the grammar that a routine belongs to.
A routine uses another one from the same place only if that one belongs to a lower level. -/
def level : Routine → Nat
  | statement => 14
  | select => 13
  | selectList | nameList => 12
  | list _ | arguments => 11
  | selectItem | orderItem => 10
  | expr _ => 9
  | logicalChain .. | operand => 8
  | booleanPrimary => 7
  | primaryChain .. | predicate => 6
  | bitExpr _ => 5
  | bitChain .. | simpleExpr => 4
  | subquery | caseExpr | aggregation | cast | substring | extract | trim | regular => 3
  | caseBranches | dataType | itemLabel => 2
  | words | qualifiedName => 1
  | identifier => 0

/-- Routines for parts that may be absent; all others consume a token when they succeed. -/
def isOptional : Routine → Bool
  | itemLabel | logicalChain .. | primaryChain .. | bitChain .. | caseBranches | words => true
  | _ => false

end Routine

/-- What is tried at a place and left again if it does not fit. -/
inductive Trial
  | parenthesis
  | column

@[reducible]
def Trial.Found : Trial → Type
  | .parenthesis => Expr
  | .column => QualifiedName

/-! ### Steps -/

/-- All that a step may depend on: the current token, the kinds of this one and the next two, where
the last consumed token stops, and whether a parenthesis was given up here. -/
structure View where
  current : Token
  kinds : Fin 3 → TokenKind
  lastStop : Option Nat
  isRejected : Bool

def Cursor.view (cursor : Cursor) : View :=
  ⟨cursor.current, fun distance => (cursor.ahead distance).kind, cursor.lastStop, cursor.isRejected⟩

/-- The steps of a parser: it gives a value, stops with an error at the current token, looks around,
consumes a token, uses a routine, or tries something that it can take back. -/
inductive Script (Value : Type) : Type
  | give (value : Value)
  | stop (expected : Expected)
  | look (next : View → Script Value)
  | step (next : Script Value)
  | enter (routine : Routine) (next : routine.Result → Script Value)
  | attempt (trial : Trial) (next : Option trial.Found → Script Value)

namespace Script

def bind {Value Result : Type} (script : Script Value) (rest : Value → Script Result) :
    Script Result :=
  match script with
  | give value => rest value
  | stop expected => stop expected
  | look next => look fun view => (next view).bind rest
  | step next => step (next.bind rest)
  | enter routine next => enter routine fun result => (next result).bind rest
  | attempt trial next => attempt trial fun found => (next found).bind rest

instance : Monad Script where
  pure := give
  bind := bind

def call (routine : Routine) : Script routine.Result := enter routine give

def current : Script Token := look fun view => give view.current

def kindAhead (distance : Fin 3) : Script TokenKind := look fun view => give (view.kinds distance)

def offset : Script Nat := look fun view => give view.current.span.start

def spanFrom (start : Nat) : Script Span :=
  look fun view => give ⟨start, max (view.lastStop.getD start) start⟩

def advance : Script Unit := step (give ())

def terminal : Script Span := do
  let token ← current
  advance
  return token.span

def fail {Value : Type} (expected : Expected) : Script Value := stop expected

def atKind (kind : TokenKind) : Script Bool := look fun view => give (view.current.kind == kind)

def atSymbol (sign : Symbol) : Script Bool := atKind (.symbol sign)

def atKeyword (word : Keyword) : Script Bool := atKind (.keyword word)

def expectKind (kind : TokenKind) : Script Span := do
  if ← atKind kind then terminal else fail (.token kind)

def expectSymbol (sign : Symbol) : Script Span := expectKind (.symbol sign)

def expectKeyword (word : Keyword) : Script Span := do
  if ← atKeyword word then terminal else fail (.keyword word)

def keyword? (word : Keyword) : Script (Option Span) := do
  if ← atKeyword word then
    let span ← terminal
    return some span
  else
    return none

end Script

end AnnotatedSql.Grammar
