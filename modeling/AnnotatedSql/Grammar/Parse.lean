/-
This file ties the parsers together and parses a whole statement.
-/

import AnnotatedSql.Grammar.Parse.Select
import AnnotatedSql.Token.Reader

namespace AnnotatedSql.Grammar

namespace Parse

/-- The nested parsers for parts that lie at most the given number of tokens deep.
Below that depth no token is left, and every part fails as it does without tokens. -/
def nested (retry : Retry) : Nat → Nested
  | 0 =>
      { expr := fun _ => fail .expression
        predicate := fail .expression
        bitExpr := fun _ => fail .expression
        simpleExpr := fail .expression
        select := fail (.keyword .SELECT) }
  | depth + 1 =>
      let inner := nested retry depth
      { expr := expr retry inner
        predicate := predicate inner
        bitExpr := bitExpr inner
        simpleExpr := simpleExpr inner
        select := select inner }

/-- `select ;?` up to the end of the input. -/
def statementWith (retry : Retry) : Parser Select := do
  let depth ← remaining
  let result ← select (nested retry depth)
  if ← atSymbol .semicolon then
    advance
  if ← atKind .endOfInput then
    return result
  else
    fail .endOfInput

/-- A parenthesis that was given up is not tried again, so nested ones are not tried once per
level. -/
def statement : Parser Select := statementWith .never

end Parse

/-- The grammar tree of a source text, or the error at the first token that does not fit. -/
def parse (source : Text) : Except SyntaxError Select :=
  (Parse.statement (Cursor.ofTokens (tokenize source))).1

end AnnotatedSql.Grammar
