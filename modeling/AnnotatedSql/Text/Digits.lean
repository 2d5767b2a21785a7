/-
This file reads signs and runs of decimal digits.
-/

import AnnotatedSql.Text

namespace AnnotatedSql.Text

/-- An optional sign and the text after it. -/
def splitSign : Text → Text × Text
  | '+' :: rest => (['+'], rest)
  | '-' :: rest => (['-'], rest)
  | rest => ([], rest)

def digitValue (digit : Char) : Nat := digit.toNat - '0'.toNat

/-- The number that decimal digits stand for. -/
def digitsValue (digits : Text) : Nat :=
  digits.foldl (fun value digit => 10 * value + digitValue digit) 0

theorem splitSign_append (text : Text) : (splitSign text).1 ++ (splitSign text).2 = text := by
  unfold splitSign
  split <;> rfl

theorem digitsValue_append (digits : Text) (last : Char) :
    digitsValue (digits ++ [last]) = 10 * digitsValue digits + digitValue last := by
  simp [digitsValue]

end AnnotatedSql.Text
