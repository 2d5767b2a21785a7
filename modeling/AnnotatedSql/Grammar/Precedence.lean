/-
This file orders the operators of the two levels at which operators bind.
All of them group to the left.
-/

import AnnotatedSql.Token

namespace AnnotatedSql.Grammar.Precedence

/-- The level of a logical connective; a higher level binds tighter. -/
def logical? : TokenKind → Option Nat
  | .keyword .OR | .symbol .doublePipe => some 1
  | .keyword .XOR => some 2
  | .keyword .AND | .symbol .doubleAmpersand => some 3
  | _ => none

/-- A negated operand binds tighter than every connective. -/
def negation : Nat := 4

/-- The level of an arithmetic or bit operator; a higher level binds tighter. -/
def bit? : TokenKind → Option Nat
  | .symbol .pipe => some 1
  | .symbol .ampersand => some 2
  | .symbol .leftShift | .symbol .rightShift => some 3
  | .symbol .plus | .symbol .minus => some 4
  | .symbol .star | .symbol .slash | .symbol .percent | .keyword .DIV | .keyword .MOD => some 5
  | .symbol .caret => some 6
  | _ => none

def isComparison : TokenKind → Bool
  | .symbol .equal | .symbol .notEqual | .symbol .less | .symbol .lessEqual
  | .symbol .greater | .symbol .greaterEqual | .symbol .safeEqual => true
  | _ => false

/-- Tokens that extend an operand below the logical level. -/
def continuesOperand (kind : TokenKind) : Bool :=
  isComparison kind || (bit? kind).isSome ||
    match kind with
    | .keyword .IS | .keyword .IN | .keyword .BETWEEN | .keyword .LIKE | .keyword .NOT => true
    | _ => false

/-- Tokens after which a name or a number makes up a whole order item. -/
def endsOrderItem : TokenKind → Bool
  | .symbol .comma | .symbol .rightParen | .symbol .semicolon | .endOfInput
  | .keyword .ASC | .keyword .DESC | .keyword .HAVING | .keyword .ORDER => true
  | _ => false

end AnnotatedSql.Grammar.Precedence
