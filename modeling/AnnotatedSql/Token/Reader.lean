/-
This file cuts a source text into tokens.
-/

import AnnotatedSql.Token.Lexeme
import AnnotatedSql.Token.Trivia

namespace AnnotatedSql

/-- A place in a source: the bytes read so far and the text that follows. -/
structure Reader where
  offset : Nat
  unread : Text
deriving DecidableEq, Repr

namespace Reader

def ofSource (source : Text) : Reader := ⟨0, source⟩

/-- Skips trivia and reads one token; at the end of the source this is the end again. -/
def next (reader : Reader) : Token × Reader :=
  let trivia := Trivia.split reader.unread
  let start := reader.offset + trivia.1.byteLength
  match Lexeme.first? trivia.2 with
  | none => (Token.ending start, ⟨start, trivia.2⟩)
  | some lexeme =>
      (Token.placed lexeme.kind lexeme.text start,
        ⟨start + lexeme.text.byteLength, lexeme.rest⟩)

theorem next_shorter (reader : Reader) (more : reader.next.1.kind ≠ .endOfInput) :
    reader.next.2.unread.length < reader.unread.length := by
  have skipped := Trivia.split_length reader.unread
  unfold next at more ⊢
  dsimp only at more ⊢
  split at more
  · simp [Token.ending] at more
  · rename_i lexeme found
    have shorter := Lexeme.first_shorter _ lexeme found
    simp only
    omega

/-- All tokens from here on, the end of the input last. -/
def tokens (reader : Reader) : List Token :=
  if _more : reader.next.1.kind = .endOfInput then
    [reader.next.1]
  else
    reader.next.1 :: tokens reader.next.2
termination_by reader.unread.length
decreasing_by exact next_shorter reader _more

end Reader

/-- The tokens of a source text, the end of the input last. -/
def tokenize (source : Text) : List Token := (Reader.ofSource source).tokens

end AnnotatedSql
