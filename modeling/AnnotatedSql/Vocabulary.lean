/-
This file holds the small closed vocabularies of an annotated statement.
-/

import AnnotatedSql.Text

namespace AnnotatedSql

/-- What joins the parts of a logical chain. -/
inductive Connective
  | and
  | or
deriving DecidableEq, Repr

namespace Connective

def spelling : Connective → String
  | .and => "AND"
  | .or => "OR"

def name : Connective → String
  | .and => "And"
  | .or => "Or"

/-- Each connective has a word, in any case, and a sign. -/
def ofText? (text : Text) : Option Connective :=
  let word := text.upper
  if word = "AND".toList ∨ word = "&&".toList then some .and
  else if word = "OR".toList ∨ word = "||".toList then some .or
  else none

end Connective

/-- The aggregate functions that are told apart. -/
inductive Aggregate
  | max | min | sum | count | avg | bitXor | stddev | variance
deriving DecidableEq, Repr

namespace Aggregate

def all : List Aggregate := [.max, .min, .sum, .count, .avg, .bitXor, .stddev, .variance]

def spelling : Aggregate → String
  | .max => "MAX"
  | .min => "MIN"
  | .sum => "SUM"
  | .count => "COUNT"
  | .avg => "AVG"
  | .bitXor => "BIT_XOR"
  | .stddev => "STDDEV"
  | .variance => "VARIANCE"

def name : Aggregate → String
  | .max => "Max"
  | .min => "Min"
  | .sum => "Sum"
  | .count => "Count"
  | .avg => "Avg"
  | .bitXor => "BitXor"
  | .stddev => "Stddev"
  | .variance => "Variance"

/-- The aggregate that a function name stands for, whatever its case. -/
def ofName? (text : Text) : Option Aggregate :=
  all.find? fun aggregate => aggregate.spelling.toList == text.upper

end Aggregate

/-- The direction of an order item. -/
inductive Direction
  | ascending
  | descending
deriving DecidableEq, Repr

namespace Direction

def spelling : Direction → String
  | .ascending => "ASC"
  | .descending => "DESC"

def name : Direction → String
  | .ascending => "Asc"
  | .descending => "Desc"

end Direction

end AnnotatedSql
