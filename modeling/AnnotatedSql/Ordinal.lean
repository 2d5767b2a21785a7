/-
This file reads the position that an order item names by a number.
-/

import AnnotatedSql.Decimal
import AnnotatedSql.Text.CharacterClass

namespace AnnotatedSql.Ordinal

/-- Positions are signed integers of 64 bits. -/
def inRange (position : Int) : Bool :=
  -9223372036854775808 ≤ position && position ≤ 9223372036854775807

/-- A sign and at least one digit, and nothing else. -/
def integer? (text : Text) : Option Int :=
  let sign := Text.splitSign text
  if sign.2 ≠ [] ∧ sign.2.all Char.isDigit then
    if sign.1 = ['-'] then some (-(Text.digitsValue sign.2 : Int))
    else some (Text.digitsValue sign.2 : Int)
  else
    none

/-- Blanks are dropped; an integer is taken exactly, any other decimal is rounded and cut. -/
def ofText? (text : Text) : Option Int :=
  let digits := text.filter fun character => !isBlank character
  let position? := (integer? digits).orElse fun _ => (Decimal.ofText? digits).map Decimal.truncated
  position?.filter inRange

end AnnotatedSql.Ordinal
