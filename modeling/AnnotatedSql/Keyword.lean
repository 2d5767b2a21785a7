/-
This file holds the words that the grammar reserves, and the few of them that may still be
used as names.
-/

import AnnotatedSql.Text

namespace AnnotatedSql

/-- Each keyword is named by its spelling. -/
inductive Keyword
  | SELECT | FROM | WHERE | GROUP | BY | HAVING | ORDER | ASC | DESC | DISTINCT | ALL | AS
  | AND | OR | XOR | NOT
  | IN | BETWEEN | LIKE | ESCAPE | IS | NULL | TRUE | FALSE | UNKNOWN | EXISTS | ANY | SOME
  | DIV | MOD
  | CASE | WHEN | THEN | ELSE | END | CAST | SUBSTRING | EXTRACT | TRIM
  | FOR | LEADING | TRAILING | BOTH
  | COUNT | SUM | AVG | MAX | MIN
deriving DecidableEq, Repr

namespace Keyword

def all : List Keyword :=
   [.SELECT, .FROM, .WHERE, .GROUP, .BY, .HAVING, .ORDER, .ASC, .DESC, .DISTINCT, .ALL, .AS,
    .AND, .OR, .XOR, .NOT, .IN, .BETWEEN, .LIKE, .ESCAPE, .IS, .NULL, .TRUE, .FALSE, .UNKNOWN,
    .EXISTS, .ANY, .SOME, .DIV, .MOD, .CASE, .WHEN, .THEN, .ELSE, .END, .CAST, .SUBSTRING,
    .EXTRACT, .TRIM, .FOR, .LEADING, .TRAILING, .BOTH, .COUNT, .SUM, .AVG, .MAX, .MIN]

/-- The spelling in capitals. -/
def spelling : Keyword → String
  | .SELECT => "SELECT"
  | .FROM => "FROM"
  | .WHERE => "WHERE"
  | .GROUP => "GROUP"
  | .BY => "BY"
  | .HAVING => "HAVING"
  | .ORDER => "ORDER"
  | .ASC => "ASC"
  | .DESC => "DESC"
  | .DISTINCT => "DISTINCT"
  | .ALL => "ALL"
  | .AS => "AS"
  | .AND => "AND"
  | .OR => "OR"
  | .XOR => "XOR"
  | .NOT => "NOT"
  | .IN => "IN"
  | .BETWEEN => "BETWEEN"
  | .LIKE => "LIKE"
  | .ESCAPE => "ESCAPE"
  | .IS => "IS"
  | .NULL => "NULL"
  | .TRUE => "TRUE"
  | .FALSE => "FALSE"
  | .UNKNOWN => "UNKNOWN"
  | .EXISTS => "EXISTS"
  | .ANY => "ANY"
  | .SOME => "SOME"
  | .DIV => "DIV"
  | .MOD => "MOD"
  | .CASE => "CASE"
  | .WHEN => "WHEN"
  | .THEN => "THEN"
  | .ELSE => "ELSE"
  | .END => "END"
  | .CAST => "CAST"
  | .SUBSTRING => "SUBSTRING"
  | .EXTRACT => "EXTRACT"
  | .TRIM => "TRIM"
  | .FOR => "FOR"
  | .LEADING => "LEADING"
  | .TRAILING => "TRAILING"
  | .BOTH => "BOTH"
  | .COUNT => "COUNT"
  | .SUM => "SUM"
  | .AVG => "AVG"
  | .MAX => "MAX"
  | .MIN => "MIN"

/-- Keywords are recognised whatever the case of their ASCII letters. -/
def ofSpelling? (text : Text) : Option Keyword :=
  all.find? fun keyword => keyword.spelling.toList == text.upper

/-- The spelling with only its first letter as a capital. -/
def name (keyword : Keyword) : String := keyword.spelling.toLower.capitalize

/-- The aggregate words may also be used as names. -/
def isUnreserved : Keyword → Bool
  | .COUNT | .SUM | .AVG | .MAX | .MIN => true
  | _ => false

theorem mem_all (keyword : Keyword) : keyword ∈ all := by
  cases keyword <;> decide

end Keyword

end AnnotatedSql
