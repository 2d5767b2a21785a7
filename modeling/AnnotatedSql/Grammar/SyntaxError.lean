/-
This file says where a text stops being a statement, and what was expected there.
-/

import AnnotatedSql.Token

namespace AnnotatedSql.Grammar

/-- What the grammar asks for at a token. -/
inductive Expected
  | token (kind : TokenKind)
  | keyword (word : Keyword)
  | identifier
  | expression
  | dataType
  | truthValue
  | endOfInput
deriving DecidableEq, Repr

def Expected.text : Expected → String
  | .token kind => kind.name
  | .keyword word => word.spelling
  | .identifier => "identifier"
  | .expression => "expression"
  | .dataType => "data type"
  | .truthValue => "TRUE, FALSE, UNKNOWN, or NULL"
  | .endOfInput => "end of input"

inductive SyntaxError
  | lexical (cause : LexicalError) (span : Span)
  | unexpected (expected : Expected) (found : TokenKind) (span : Span)
deriving DecidableEq, Repr

namespace SyntaxError

/-- The error at a token; a token that is itself an error is reported as such. -/
def atToken (expected : Expected) (token : Token) : SyntaxError :=
  match token.kind with
  | .error cause => .lexical cause token.span
  | kind => .unexpected expected kind token.span

def span : SyntaxError → Span
  | .lexical _ span | .unexpected _ _ span => span

def expected? : SyntaxError → Option Expected
  | .lexical .. => none
  | .unexpected expected _ _ => some expected

def found? : SyntaxError → Option TokenKind
  | .lexical .. => none
  | .unexpected _ found _ => some found

/-- What went wrong, without the place. -/
def reason : SyntaxError → String
  | .lexical cause _ => cause.message
  | .unexpected expected found _ =>
      if found = .endOfInput then
        "Unexpected end of input: expected " ++ expected.text
      else
        "Unexpected token: expected " ++ expected.text ++ ", found " ++ found.name

/-- What went wrong and where. -/
def message (error : SyntaxError) : String :=
  error.reason ++ " at position " ++ error.span.display

end SyntaxError

end AnnotatedSql.Grammar
