/-
This file fixes what a token is.
-/

import AnnotatedSql.Keyword
import AnnotatedSql.Span
import AnnotatedSql.Token.Symbol

namespace AnnotatedSql

/-- Why a piece of text is no token of the language. -/
inductive LexicalError
  | unterminatedString
  | unterminatedIdentifier
  | malformedLiteral
  | malformedExponent
  | unexpectedCharacter (character : Char)
deriving DecidableEq, Repr

namespace LexicalError

def message : LexicalError → String
  | .unterminatedString => "Unterminated string literal"
  | .unterminatedIdentifier => "Unterminated quoted identifier"
  | .malformedLiteral => "Malformed prefixed literal"
  | .malformedExponent => "Malformed exponent"
  | .unexpectedCharacter character => "Unexpected character: " ++ String.ofList [character]

end LexicalError

inductive TokenKind
  | number
  | string
  | hexadecimal
  | bitValue
  | identifier
  | quotedIdentifier
  | keyword (word : Keyword)
  | symbol (sign : Symbol)
  | endOfInput
  | error (cause : LexicalError)
deriving DecidableEq, Repr

namespace TokenKind

/-- The name under which a kind is reported; an error is reported by its message. -/
def name : TokenKind → String
  | .number => "Number"
  | .string => "String"
  | .hexadecimal => "Hexadecimal"
  | .bitValue => "BitValue"
  | .identifier => "Identifier"
  | .quotedIdentifier => "QuotedIdentifier"
  | .keyword word => "Keyword(" ++ word.name ++ ")"
  | .symbol sign => sign.name
  | .endOfInput => "Eof"
  | .error cause => cause.message

def keyword? : TokenKind → Option Keyword
  | .keyword word => some word
  | _ => none

/-- A name is a bare or quoted identifier or an unreserved keyword. -/
def isName : TokenKind → Bool
  | .identifier | .quotedIdentifier => true
  | .keyword word => word.isUnreserved
  | _ => false

end TokenKind

/-- A token with its text and the span of that text in the source. -/
structure Token where
  kind : TokenKind
  text : Text
  span : Span
deriving DecidableEq, Repr

namespace Token

/-- The token that stands for the end of a source of the given size. -/
def ending (size : Nat) : Token := ⟨.endOfInput, [], ⟨size, size⟩⟩

/-- The token that a text of the given kind makes at an offset. -/
def placed (kind : TokenKind) (text : Text) (offset : Nat) : Token :=
  ⟨kind, text, Span.ofRange offset (offset + text.byteLength)⟩

end Token

end AnnotatedSql
