/-
This file fixes the grammar tree of a statement.
A node carries the span of the tokens that it covers; a token by itself is kept as its span.
-/

import AnnotatedSql.Span

namespace AnnotatedSql.Grammar

/-- A name; `unreservedWord` is set when it is spelled like an unreserved keyword. -/
structure Identifier where
  span : Span
  unreservedWord : Option Span
deriving DecidableEq, Repr

/-- A name as owner, as alias or as schema. -/
structure Label where
  span : Span
  identifier : Identifier
deriving DecidableEq, Repr

/-- `(owner .)? name`, of a table or of a column. -/
structure QualifiedName where
  span : Span
  owner : Option Label
  name : Identifier
deriving DecidableEq, Repr

/-- `name (, name)*` -/
structure NameList where
  span : Span
  names : List QualifiedName
deriving DecidableEq, Repr

/-- A literal; the first slot that is set, in the order of the fields, says of which sort. -/
structure Literal where
  span : Span
  string : Option Span
  number : Option Span
  hexadecimal : Option Span
  bitValue : Option Span
  boolean : Option Span
  null : Option Span
deriving DecidableEq, Repr

/-- A literal with no slot set. -/
def Literal.empty (span : Span) : Literal := ⟨span, none, none, none, none, none, none⟩

/-- The name of a data type, and the span with its length. -/
structure DataType where
  span : Span
  name : Span
deriving DecidableEq, Repr

mutual

/-- Logical connectives over boolean primaries. -/
inductive Expr
  | logical (span : Span) (left : Expr) (operator : Span) (right : Expr)
  | xor (span : Span) (left right : Expr)
  | not (span : Span) (operator : Span) (operand : Expr)
  | paren (span : Span) (inner : Expr)
  | primary (primary : BooleanPrimary)

/-- Comparisons and tests over predicates. -/
inductive BooleanPrimary
  | isTest (span : Span) (operand : BooleanPrimary) (negation : Option Span) (value : Span)
  | comparison (span : Span) (left : BooleanPrimary) (operator : Span) (right : Predicate)
  | quantified (span : Span) (left : BooleanPrimary) (operator quantifier : Span)
      (subquery : Subquery)
  | predicate (predicate : Predicate)

/-- Membership, range and pattern tests over bit expressions. -/
inductive Predicate
  | inSubquery (span : Span) (operand : BitExpr) (negation : Option Span) (subquery : Subquery)
  | inList (span : Span) (operand : BitExpr) (negation : Option Span) (leftParen : Span)
      (items : List Expr) (rightParen : Span)
  | between (span : Span) (operand : BitExpr) (negation : Option Span) (lower : BitExpr)
      (upper : Predicate)
  | like (span : Span) (operand : BitExpr) (negation : Option Span) (pattern : SimpleExpr)
      (escape : Option SimpleExpr)
  | bitExpr (operand : BitExpr)

/-- Arithmetic and bit operators over simple expressions. -/
inductive BitExpr
  | binary (span : Span) (left : BitExpr) (operator : Span) (right : BitExpr)
  | simple (operand : SimpleExpr)

inductive SimpleExpr
  | subquery (span : Span) (existsWord : Option Span) (subquery : Subquery)
  | marker (span : Span)
  | literal (literal : Literal)
  | call (call : FunctionCall)
  | column (name : QualifiedName)
  | unary (span : Span) (operator : Span) (operand : SimpleExpr)
  | row (span : Span) (items : List Expr)
  | caseOf (span : Span) (operand : Option SimpleExpr) (branches : List CaseBranch)
      (otherwise : Option Expr)

/-- `WHEN condition THEN result` -/
structure CaseBranch where
  span : Span
  condition : Expr
  result : Expr

/-- A call; the first slot that is set, in the order of the fields, says of which sort. -/
structure FunctionCall where
  span : Span
  aggregation : Option AggregationCall
  special : Option SpecialCall
  regular : Option RegularCall

/-- `name ( DISTINCT? arguments )` -/
structure AggregationCall where
  span : Span
  name : Span
  leftParen : Span
  distinct : Option Span
  arguments : List AggregationArgument
  rightParen : Span

/-- What stands between the parentheses of an aggregation call, the commas included. -/
inductive AggregationArgument
  | expr (expr : Expr)
  | asterisk (span : Span)
  | comma (span : Span)

inductive SpecialCall
  | cast (call : CastCall)
  | substring (span : Span) (arguments : List Expr)
  | extract (span : Span) (field : Identifier) (source : Expr)
  | trim (span : Span) (arguments : List Expr)

/-- `CAST ( operand AS data type )` -/
structure CastCall where
  span : Span
  operand : Expr
  dataType : DataType

/-- `name ( arguments )` -/
structure RegularCall where
  span : Span
  name : Identifier
  arguments : List Expr
  asterisk : Option Span

/-- An item of ORDER BY or GROUP BY; the first slot that is set, in the order of the fields,
says of which sort. -/
structure OrderItem where
  span : Span
  column : Option QualifiedName
  number : Option Span
  expr : Option Expr
  ascending : Option Span
  descending : Option Span

/-- An ORDER BY or GROUP BY clause. -/
structure OrderClause where
  span : Span
  items : List OrderItem

/-- A WHERE or HAVING clause. -/
structure ConditionClause where
  span : Span
  expr : Expr

inductive SelectItem
  | shorthand (star : Span)
  | qualifiedShorthand (span : Span) (owner : Label)
  | expr (span : Span) (expr : Expr) (itemLabel : Option Label)

structure SelectList where
  span : Span
  items : List SelectItem

structure Select where
  span : Span
  distinct : Option Span
  selectList : SelectList
  tables : Option NameList
  condition : Option ConditionClause
  grouping : Option OrderClause
  having : Option ConditionClause
  ordering : Option OrderClause

/-- `( select )` -/
structure Subquery where
  span : Span
  leftParen : Span
  select : Select
  rightParen : Span

end

def SpecialCall.span : SpecialCall → Span
  | .cast node => node.span
  | .substring span _ | .extract span _ _ | .trim span _ => span

def SimpleExpr.span : SimpleExpr → Span
  | .subquery span _ _ | .marker span | .unary span _ _ | .row span _ | .caseOf span _ _ _ => span
  | .literal node => node.span
  | .call node => node.span
  | .column name => name.span

def BitExpr.span : BitExpr → Span
  | .binary span _ _ _ => span
  | .simple operand => operand.span

def Predicate.span : Predicate → Span
  | .inSubquery span _ _ _ | .inList span _ _ _ _ _ | .between span _ _ _ _
  | .like span _ _ _ _ => span
  | .bitExpr operand => operand.span

def BooleanPrimary.span : BooleanPrimary → Span
  | .isTest span _ _ _ | .comparison span _ _ _ | .quantified span _ _ _ _ => span
  | .predicate inner => inner.span

def Expr.span : Expr → Span
  | .logical span _ _ _ | .xor span _ _ | .not span _ _ | .paren span _ => span
  | .primary inner => inner.span

def AggregationArgument.span : AggregationArgument → Span
  | .expr inner => inner.span
  | .asterisk span | .comma span => span

def SelectItem.span : SelectItem → Span
  | .shorthand span | .qualifiedShorthand span _ | .expr span _ _ => span

end AnnotatedSql.Grammar
