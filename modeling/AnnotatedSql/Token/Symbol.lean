/-
This file holds the operators and the punctuation of the language.
-/

import AnnotatedSql.Text

namespace AnnotatedSql

inductive Symbol
  | plus | minus | star | slash | percent
  | equal | notEqual | less | lessEqual | greater | greaterEqual | safeEqual
  | doublePipe | doubleAmpersand | ampersand | pipe | caret | tilde | bang
  | leftShift | rightShift
  | leftParen | rightParen | comma | semicolon | dot | question
deriving DecidableEq, Repr

namespace Symbol

/-- The name under which a token of this symbol is reported. -/
def name : Symbol → String
  | .plus => "Plus"
  | .minus => "Minus"
  | .star => "Star"
  | .slash => "Slash"
  | .percent => "Percent"
  | .equal => "Eq"
  | .notEqual => "NotEq"
  | .less => "Lt"
  | .lessEqual => "LtEq"
  | .greater => "Gt"
  | .greaterEqual => "GtEq"
  | .safeEqual => "SafeEq"
  | .doublePipe => "DoublePipe"
  | .doubleAmpersand => "DoubleAmpersand"
  | .ampersand => "BitAnd"
  | .pipe => "BitOr"
  | .caret => "Caret"
  | .tilde => "Tilde"
  | .bang => "Bang"
  | .leftShift => "LeftShift"
  | .rightShift => "RightShift"
  | .leftParen => "LeftParen"
  | .rightParen => "RightParen"
  | .comma => "Comma"
  | .semicolon => "Semicolon"
  | .dot => "Dot"
  | .question => "Question"

/-- All spellings, longer ones first, so that the first match is the longest. -/
def spellings : List (String × Symbol) :=
  [("<=>", .safeEqual),
   ("<=", .lessEqual), ("<>", .notEqual), ("<<", .leftShift), (">=", .greaterEqual),
   (">>", .rightShift), ("!=", .notEqual), ("||", .doublePipe), ("&&", .doubleAmpersand),
   ("(", .leftParen), (")", .rightParen), (",", .comma), (";", .semicolon), (".", .dot),
   ("+", .plus), ("-", .minus), ("*", .star), ("/", .slash), ("%", .percent), ("^", .caret),
   ("~", .tilde), ("?", .question), ("=", .equal), ("<", .less), (">", .greater),
   ("!", .bang), ("|", .pipe), ("&", .ampersand)]

theorem spellings_nonempty (entry : String × Symbol) (listed : entry ∈ spellings) :
    entry.1.toList ≠ [] := by
  revert entry
  decide

end Symbol

end AnnotatedSql
