/-
This file holds the place of a parser in its tokens.
-/

import AnnotatedSql.Token

namespace AnnotatedSql.Grammar

/-- A place in a list of tokens.
The end of the input is kept apart and is never consumed; `lastStop` is where the last consumed
token stops; `rejected` lists the parentheses that are known not to enclose a whole operand. -/
structure Cursor where
  unread : List Token
  ending : Token
  lastStop : Option Nat
  rejected : List Nat
deriving DecidableEq, Repr

namespace Cursor

/-- The first place in tokens of which the last is the end of the input. -/
def ofTokens (tokens : List Token) : Cursor :=
  ⟨tokens.dropLast, tokens.getLastD (Token.ending 0), none, []⟩

/-- The token that lies the given number of tokens ahead; past the last one it is the end. -/
def ahead (cursor : Cursor) (distance : Nat) : Token := cursor.unread.getD distance cursor.ending

def current (cursor : Cursor) : Token := cursor.ahead 0

/-- A place is known by the number of tokens that follow it. -/
def position (cursor : Cursor) : Nat := cursor.unread.length

/-- Consumes the current token. -/
def advance (cursor : Cursor) : Cursor :=
  match cursor.unread with
  | [] => cursor
  | token :: rest => ⟨rest, cursor.ending, some token.span.stop, cursor.rejected⟩

/-- The span from an offset to the end of the last consumed token. -/
def spanFrom (cursor : Cursor) (start : Nat) : Span :=
  ⟨start, max (cursor.lastStop.getD start) start⟩

/-- The place is an opening parenthesis that was given up before. -/
def isRejected (cursor : Cursor) : Bool := cursor.rejected.contains cursor.position

/-- Back to an earlier place, whose parenthesis is given up; what was given up since then stays
given up. -/
def giveUp (earlier later : Cursor) : Cursor :=
  { earlier with rejected := earlier.position :: later.rejected }

theorem advance_position (cursor : Cursor) : cursor.advance.position = cursor.position - 1 := by
  unfold advance position
  split <;> simp_all

end Cursor

end AnnotatedSql.Grammar
