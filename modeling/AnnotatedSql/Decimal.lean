/-
This file reads decimal numbers and rounds them to 53 significant bits.
-/

import AnnotatedSql.Text.Digits

namespace AnnotatedSql

/-- The number `digits * 10 ^ exponent`, negated if `negative` is set. -/
structure Decimal where
  negative : Bool
  digits : Nat
  exponent : Int
deriving DecidableEq, Repr

namespace Decimal

/-- Digits before and after an optional point, and the text after them. -/
def splitPoint (text : Text) : Text × Text × Text :=
  let whole := text.takeWhile Char.isDigit
  match text.dropWhile Char.isDigit with
  | '.' :: rest => (whole, rest.takeWhile Char.isDigit, rest.dropWhile Char.isDigit)
  | rest => (whole, [], rest)

/-- The size of an exponent; once it has reached 65536 further digits do not count. -/
def exponentSize (digits : Text) : Nat :=
  digits.foldl
    (fun size digit => if size < 65536 then 10 * size + Text.digitValue digit else size) 0

/-- Nothing, or a letter with an optional sign and at least one digit. -/
def exponent? : Text → Option Int
  | [] => some 0
  | letter :: rest =>
      let sign := Text.splitSign rest
      if (letter = 'e' ∨ letter = 'E') ∧ sign.2 ≠ [] ∧ sign.2.all Char.isDigit then
        if sign.1 = ['-'] then some (-(exponentSize sign.2 : Int))
        else some (exponentSize sign.2 : Int)
      else
        none

/-- A sign, digits with an optional point, and an exponent; only the digits are needed. -/
def ofText? (text : Text) : Option Decimal :=
  let sign := Text.splitSign text
  let parts := splitPoint sign.2
  if parts.1 = [] ∧ parts.2.1 = [] then
    none
  else
    (exponent? parts.2.2).map fun exponent =>
      ⟨sign.1 == ['-'], Text.digitsValue (parts.1 ++ parts.2.1), exponent - parts.2.1.length⟩

/-- The nearest integer to a quotient; a tie goes to the even one. -/
def roundQuotient (numerator denominator : Nat) : Nat :=
  let quotient := numerator / denominator
  let twice := 2 * (numerator % denominator)
  if twice < denominator ∨ (twice = denominator ∧ quotient % 2 = 0) then quotient
  else quotient + 1

/-- The power of two that leaves a positive fraction at least `2 ^ 52` and below `2 ^ 53`. -/
def scale (numerator denominator : Nat) : Int :=
  let guess : Int := (numerator.log2 : Int) - denominator.log2
  let reached :=
    if 0 ≤ guess then denominator * Nat.pow 2 guess.toNat ≤ numerator
    else denominator ≤ numerator * Nat.pow 2 (-guess).toNat
  if reached then guess - 52 else guess - 53

/-- The whole part of a fraction after rounding to 53 significant bits. -/
def roundedWhole (numerator denominator : Nat) : Nat :=
  if numerator = 0 then
    0
  else
    let power := scale numerator denominator
    if 0 ≤ power then
      roundQuotient numerator (denominator * Nat.pow 2 power.toNat) * Nat.pow 2 power.toNat
    else
      roundQuotient (numerator * Nat.pow 2 (-power).toNat) denominator / Nat.pow 2 (-power).toNat

/-- The number rounded to 53 significant bits and then cut toward zero. -/
def truncated (decimal : Decimal) : Int :=
  let whole :=
    if 0 ≤ decimal.exponent then
      roundedWhole (decimal.digits * Nat.pow 10 decimal.exponent.toNat) 1
    else
      roundedWhole decimal.digits (Nat.pow 10 (-decimal.exponent).toNat)
  if decimal.negative then -(whole : Int) else whole

end Decimal

end AnnotatedSql
