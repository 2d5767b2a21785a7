/-
This file says when a parser takes given tokens, wherever they come before a token that may follow
them.
-/

import AnnotatedSql.Proofs.Grammar.Consumption
import AnnotatedSql.Proofs.Grammar.Terminal

namespace AnnotatedSql.Grammar

/-- The kind that lies the given number of tokens ahead, where the given tokens come next and then
one of a kind that may follow. -/
def Ahead (follow : TokenKind → Bool) : Nat → List Token → TokenKind → Prop
  | 0, [], kind => follow kind
  | 0, token :: _, kind => kind = token.kind
  | _ + 1, [], _ => True
  | distance + 1, _ :: rest, kind => Ahead follow distance rest kind

/-- The kind of the token that comes next. -/
theorem ahead_token {follow middle : TokenKind → Bool} {token : Token} {tokens : List Token}
    {expected : TokenKind} (found : token.kind = expected) (allowed : middle expected) :
    ∀ kind, Ahead follow 0 (token :: tokens) kind → middle kind := by
  intro kind ahead
  rw [Ahead, found] at ahead
  rw [ahead]
  exact allowed

theorem ahead_ne {follow : TokenKind → Bool} {token : Token} {tokens : List Token}
    {expected other : TokenKind} (found : token.kind = expected) (differs : expected ≠ other) :
    ∀ kind, Ahead follow 0 (token :: tokens) kind → kind ≠ other := by
  intro kind ahead
  rw [Ahead, found] at ahead
  rw [ahead]
  exact differs

namespace Cursor

/-- At the cursor the given tokens come next, and then one of a kind that may follow. -/
structure Offers (cursor : Cursor) (tokens : List Token) (follow : TokenKind → Bool) : Prop where
  unread : ∃ rest, cursor.unread = tokens ++ rest
  follow : follow (cursor.ahead tokens.length).kind

variable {cursor later : Cursor} {tokens others : List Token} {follow middle : TokenKind → Bool}
  {token : Token}

theorem Offers.ahead (offers : cursor.Offers tokens follow) (distance : Nat) :
    Ahead follow distance tokens (cursor.ahead distance).kind := by
  induction distance generalizing cursor tokens with
  | zero =>
      cases tokens with
      | nil => exact offers.follow
      | cons token rest =>
          obtain ⟨further, unread⟩ := offers.unread
          rw [Ahead, Cursor.ahead, unread]
          rfl
  | succ distance ih =>
      cases tokens with
      | nil => exact trivial
      | cons token rest =>
          obtain ⟨further, unread⟩ := offers.unread
          have next : cursor.advance.Offers rest follow := by
            refine ⟨⟨further, ?_⟩, ?_⟩
            · simp [Cursor.advance, unread]
            · rw [advance_ahead]
              exact offers.follow
          have found := ih next
          rw [advance_ahead] at found
          exact found

/-- After some of the tokens the others come next. -/
theorem Offers.after (offers : cursor.Offers (tokens ++ others) follow)
    (reads : cursor.Reads tokens later) : later.Offers others follow := by
  obtain ⟨rest, unread⟩ := offers.unread
  constructor
  · refine ⟨rest, ?_⟩
    rw [reads.unread, List.append_assoc] at unread
    exact List.append_cancel_left unread
  · rw [reads.ahead, ← List.length_append]
    exact offers.follow

/-- Of the tokens the first ones come next, and then the first of the others. -/
theorem Offers.before (offers : cursor.Offers (tokens ++ others) follow)
    (bridge : ∀ kind, Ahead follow 0 others kind → middle kind) : cursor.Offers tokens middle := by
  obtain ⟨rest, unread⟩ := offers.unread
  rw [List.append_assoc] at unread
  refine ⟨⟨others ++ rest, unread⟩, bridge _ ?_⟩
  cases others with
  | nil =>
      have follows := offers.follow
      rw [List.append_nil] at follows
      exact follows
  | cons token others =>
      rw [Ahead, Cursor.ahead, unread]
      simp

theorem Offers.current (offers : cursor.Offers (token :: tokens) follow) :
    cursor.current = token := by
  obtain ⟨rest, unread⟩ := offers.unread
  rw [Cursor.current, Cursor.ahead, unread]
  rfl

theorem Offers.reads_advance (offers : cursor.Offers (token :: tokens) follow) :
    cursor.Reads [token] cursor.advance := by
  obtain ⟨rest, unread⟩ := offers.unread
  constructor <;> simp [Cursor.advance, unread, stopOf?]

theorem Offers.position (offers : cursor.Offers tokens follow) :
    tokens.length ≤ cursor.position := by
  obtain ⟨rest, unread⟩ := offers.unread
  rw [Cursor.position, unread, List.length_append]
  omega

end Cursor

namespace Parse

variable {Value Result : Type} {bound small : Nat} {parser : Parser Value}
  {rest : Value → Parser Result} {tokens others : List Token} {follow middle : TokenKind → Bool}
  {token : Token}

/-- Wherever the tokens come before one of a kind that may follow, with at most so many tokens left,
the parser succeeds; its value and those of the tokens that it leaves are as stated. -/
def Parses (bound : Nat) (parser : Parser Value) (tokens : List Token)
    (follow : TokenKind → Bool) (holds : Value → List Token → Prop) : Prop :=
  ∀ cursor : Cursor, cursor.position ≤ bound → cursor.Offers tokens follow →
    ∃ value after consumed left, parser cursor = (.ok value, after) ∧ tokens = consumed ++ left ∧
      cursor.Reads consumed after ∧ holds value left

/-- The parser takes all the tokens. -/
abbrev Accepts (bound : Nat) (parser : Parser Value) (tokens : List Token)
    (follow : TokenKind → Bool) : Prop := Parses bound parser tokens follow fun _ left => left = []

theorem Parses.fewer {holds : Value → List Token → Prop}
    (parses : Parses bound parser tokens follow holds) (least : small ≤ bound) :
    Parses small parser tokens follow holds :=
  fun cursor few offers => parses cursor (Nat.le_trans few least) offers

theorem Parses.here {holds : Value → List Token → Prop}
    (parses : Parses (bound + 1) parser tokens follow holds) :
    Parses bound parser tokens follow holds := parses.fewer (Nat.le_succ bound)

theorem Parses.mono {holds weaker : Value → List Token → Prop}
    (parses : Parses bound parser tokens follow holds)
    (weaken : ∀ value left, holds value left → weaker value left) :
    Parses bound parser tokens follow weaker := by
  intro cursor few offers
  obtain ⟨value, after, consumed, left, run, whole, reads, held⟩ := parses cursor few offers
  exact ⟨value, after, consumed, left, run, whole, reads, weaken value left held⟩

/-- No more tokens are left than there were. -/
theorem Parses.shorter {holds : Value → List Token → Prop}
    (parses : Parses bound parser tokens follow holds) :
    Parses bound parser tokens follow fun value left =>
      holds value left ∧ left.length ≤ tokens.length := by
  intro cursor few offers
  obtain ⟨value, after, consumed, left, run, rfl, reads, held⟩ := parses cursor few offers
  refine ⟨value, after, consumed, left, run, rfl, reads, held, ?_⟩
  rw [List.length_append]
  exact Nat.le_add_left ..

/-- What follows may be restricted. -/
theorem Parses.narrow {holds : Value → List Token → Prop}
    (parses : Parses bound parser tokens middle holds)
    (implies : ∀ kind, follow kind → middle kind) : Parses bound parser tokens follow holds := by
  intro cursor few offers
  exact parses cursor few ⟨offers.unread, implies _ offers.follow⟩

theorem Parses.bind {holds : Value → List Token → Prop} {finish : Result → List Token → Prop}
    (first : Parses bound parser tokens follow holds)
    (next : ∀ value left, holds value left → Parses bound (rest value) left follow finish) :
    Parses bound (parser >>= rest) tokens follow finish := by
  intro cursor few offers
  obtain ⟨value, middle, consumed, left, run, rfl, reads, held⟩ := first cursor few offers
  have position := reads.position
  obtain ⟨result, after, further, remainder, lastRun, rfl, lastReads, lastHeld⟩ :=
    next value left held middle (by omega) (offers.after reads)
  refine ⟨result, after, consumed ++ further, remainder, ?_, (List.append_assoc ..).symm,
    reads.trans lastReads, lastHeld⟩
  rw [bind_run, run]
  exact lastRun

/-- A parser that takes some tokens leaves those that come after them. -/
theorem Parses.leaving {holds : Value → Prop}
    (first : Parses bound parser tokens middle fun value left => left = [] ∧ holds value)
    (bridge : ∀ kind, Ahead follow 0 others kind → middle kind) :
    Parses bound parser (tokens ++ others) follow fun value left =>
      left = others ∧ holds value := by
  intro cursor few offers
  obtain ⟨value, after, consumed, left, run, rfl, reads, rfl, held⟩ :=
    first cursor few (offers.before bridge)
  refine ⟨value, after, consumed, others, run, ?_, reads, rfl, held⟩
  rw [List.append_nil]

theorem Parses.append (first : Accepts bound parser tokens middle)
    (bridge : ∀ kind, Ahead follow 0 others kind → middle kind) :
    Parses bound parser (tokens ++ others) follow fun _ left => left = others := by
  have taken : Parses bound parser (tokens ++ others) follow fun _ left => left = others ∧ True :=
    (first.mono fun _ _ none => ⟨none, trivial⟩).leaving bridge
  exact taken.mono fun _ _ found => found.1

/-- A parser that takes some tokens may be followed by one for the others. -/
theorem Parses.append_bind {finish : Result → List Token → Prop}
    (first : Accepts bound parser tokens middle)
    (bridge : ∀ kind, Ahead follow 0 others kind → middle kind)
    (next : ∀ value, Parses bound (rest value) others follow finish) :
    Parses bound (parser >>= rest) (tokens ++ others) follow finish := by
  apply (first.append bridge).bind
  intro value left same
  rw [same]
  exact next value

theorem parses_pure {value : Value} {holds : Value → List Token → Prop}
    (held : holds value tokens) : Parses bound (pure value) tokens follow holds :=
  fun cursor _ _ => ⟨value, cursor, [], tokens, rfl, rfl, .refl cursor, held⟩

/-! ### Steps that only look -/

section
variable {finish : Result → List Token → Prop}

theorem parses_kindAhead_bind {rest : TokenKind → Parser Result} (distance : Nat)
    (next : ∀ kind, Ahead follow distance tokens kind →
      Parses bound (rest kind) tokens follow finish) :
    Parses bound (kindAhead distance >>= rest) tokens follow finish := by
  intro cursor few offers
  rw [bind_look (kindAhead_run distance)]
  exact next _ (offers.ahead distance) cursor few offers

theorem parses_atKind_bind {rest : Bool → Parser Result} (kind : TokenKind)
    (next : ∀ found, Ahead follow 0 tokens found →
      Parses bound (rest (found == kind)) tokens follow finish) :
    Parses bound (atKind kind >>= rest) tokens follow finish := by
  intro cursor few offers
  have run : atKind kind cursor = (.ok (cursor.current.kind == kind), cursor) := rfl
  rw [bind_look run]
  exact next _ (offers.ahead 0) cursor few offers

/-- The token is there. -/
theorem parses_atKind_present {rest : Bool → Parser Result} {kind : TokenKind}
    (found : token.kind = kind)
    (next : Parses bound (rest true) (token :: tokens) follow finish) :
    Parses bound (atKind kind >>= rest) (token :: tokens) follow finish := by
  refine parses_atKind_bind kind fun seen same => ?_
  rw [Ahead, found] at same
  rw [same, beq_self_eq_true]
  exact next

/-- The token is not there. -/
theorem parses_atKind_absent {rest : Bool → Parser Result} {kind : TokenKind}
    (missing : ∀ found, Ahead follow 0 tokens found → found ≠ kind)
    (next : Parses bound (rest false) tokens follow finish) :
    Parses bound (atKind kind >>= rest) tokens follow finish := by
  refine parses_atKind_bind kind fun seen ahead => ?_
  rw [beq_false_of_ne (missing seen ahead)]
  exact next

theorem parses_current_bind {rest : Token → Parser Result}
    (next : Parses bound (rest token) (token :: tokens) follow finish) :
    Parses bound (Parse.current >>= rest) (token :: tokens) follow finish := by
  intro cursor few offers
  have run : Parse.current cursor = (.ok cursor.current, cursor) := rfl
  rw [bind_look run, offers.current]
  exact next cursor few offers

theorem parses_offset_bind {rest : Nat → Parser Result}
    (next : ∀ start, Parses bound (rest start) tokens follow finish) :
    Parses bound (offset >>= rest) tokens follow finish := by
  intro cursor few offers
  rw [bind_look offset_run]
  exact next _ cursor few offers

theorem parses_spanFrom_bind {rest : Span → Parser Result} (start : Nat)
    (next : ∀ span, Parses bound (rest span) tokens follow finish) :
    Parses bound (spanFrom start >>= rest) tokens follow finish := by
  intro cursor few offers
  have run : spanFrom start cursor = (.ok (cursor.spanFrom start), cursor) := rfl
  rw [bind_look run]
  exact next _ cursor few offers

/-- At the end of a phrase its span is added. -/
theorem parses_covered {build : Span → Result} {start : Nat}
    (held : ∀ span, finish (build span) tokens) :
    Parses bound
      (do let span ← spanFrom start
          return build span)
      tokens follow finish := by
  apply parses_spanFrom_bind
  intro span
  exact parses_pure (held span)

theorem Parses.covered {build : Value → Span → Result} {start : Nat}
    {remains : List Token → Prop}
    (last : Parses bound parser tokens follow fun _ left => remains left) :
    Parses bound
      (do let value ← parser
          let span ← spanFrom start
          return build value span)
      tokens follow fun _ left => remains left := by
  apply last.bind
  intro value left remaining
  exact parses_covered fun _ => remaining

theorem parses_remaining_bind {rest : Nat → Parser Result}
    (next : ∀ rounds, tokens.length ≤ rounds → Parses bound (rest rounds) tokens follow finish) :
    Parses bound (remaining >>= rest) tokens follow finish := by
  intro cursor few offers
  rw [bind_look remaining_run]
  exact next _ offers.position cursor few offers

/-! ### Steps that take a token -/

theorem parses_advance_bind {rest : Unit → Parser Result}
    (next : Parses bound (rest ()) tokens follow finish) :
    Parses (bound + 1) (advance >>= rest) (token :: tokens) follow finish := by
  intro cursor few offers
  have reads := offers.reads_advance
  have position := reads.position
  rw [List.length_singleton] at position
  obtain ⟨result, after, consumed, left, run, rfl, lastReads, held⟩ :=
    next cursor.advance (by omega) (offers.after reads)
  refine ⟨result, after, token :: consumed, left, ?_, rfl, reads.trans lastReads, held⟩
  rw [bind_run]
  exact run

theorem parses_terminal_bind {rest : Span → Parser Result}
    (next : Parses bound (rest token.span) tokens follow finish) :
    Parses (bound + 1) (terminal >>= rest) (token :: tokens) follow finish := by
  rw [terminal, bind_assoc]
  refine parses_current_bind ?_
  rw [bind_assoc]
  exact parses_advance_bind next

theorem parses_expectKind_bind {rest : Span → Parser Result} {kind : TokenKind}
    (found : token.kind = kind) (next : Parses bound (rest token.span) tokens follow finish) :
    Parses (bound + 1) (expectKind kind >>= rest) (token :: tokens) follow finish := by
  rw [expectKind, bind_assoc]
  exact parses_atKind_present found (parses_terminal_bind next)

theorem parses_expectKeyword_bind {rest : Span → Parser Result} {word : Keyword}
    (found : token.kind = .keyword word)
    (next : Parses bound (rest token.span) tokens follow finish) :
    Parses (bound + 1) (expectKeyword word >>= rest) (token :: tokens) follow finish := by
  rw [expectKeyword, bind_assoc]
  exact parses_atKind_present found (parses_terminal_bind next)

end

end Parse

end AnnotatedSql.Grammar
