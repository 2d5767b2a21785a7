/-
This file says which tokens lie between two places, and what a parser that succeeds has done.
-/

import AnnotatedSql.Grammar.Parse.Basic
import AnnotatedSql.Proofs.Grammar.Derivation
import AnnotatedSql.Proofs.Token.Sequence

namespace AnnotatedSql.Grammar

/-- The place before some tokens and the end of the input. -/
theorem ofTokens_concat (tokens : List Token) (ending : Token) :
    Cursor.ofTokens (tokens ++ [ending]) = ⟨tokens, ending, none, []⟩ := by
  rw [Cursor.ofTokens, List.dropLast_concat, List.getLastD_concat]

/-- In front of other tokens, a token does not matter for where they stop. -/
theorem stopOf_cons {tokens : List Token} (first : Token) (nonempty : tokens ≠ []) :
    stopOf? (first :: tokens) = stopOf? tokens := by
  rw [stopOf?, List.getLast?_cons_of_ne_nil nonempty, stopOf?]

namespace Cursor

/-- The token at the end is the end of the input. -/
def Ends (cursor : Cursor) : Prop := cursor.ending.kind = .endOfInput

theorem ofTokens_ends (source : Text) : (Cursor.ofTokens (tokenize source)).Ends := by
  obtain ⟨content, ending, whole, last, _⟩ := (Reader.ofSource source).tokens_end
  rw [tokenize, whole, Ends, Cursor.ofTokens, List.getLastD_concat]
  exact last

/-- From one place to another exactly the given tokens are consumed. -/
structure Reads (before : Cursor) (tokens : List Token) (after : Cursor) : Prop where
  unread : before.unread = tokens ++ after.unread
  ending : after.ending = before.ending
  lastStop : after.lastStop = (stopOf? tokens).or before.lastStop

variable {before middle after : Cursor} {tokens others : List Token}

theorem Reads.refl (cursor : Cursor) : cursor.Reads [] cursor := ⟨rfl, rfl, rfl⟩

theorem Reads.trans (first : before.Reads tokens middle) (second : middle.Reads others after) :
    before.Reads (tokens ++ others) after where
  unread := by rw [first.unread, second.unread, List.append_assoc]
  ending := second.ending.trans first.ending
  lastStop := by
    rw [second.lastStop, first.lastStop, stopOf?, stopOf?, stopOf?, List.getLast?_append]
    cases others.getLast? <;> simp

theorem Reads.ends (reads : before.Reads tokens after) (ends : before.Ends) : after.Ends := by
  rw [Ends, reads.ending]
  exact ends

/-- A place is followed by as many tokens as are read from there and left after that. -/
theorem Reads.position (reads : before.Reads tokens after) :
    before.position = tokens.length + after.position := by
  rw [Cursor.position, reads.unread, List.length_append, Cursor.position]

/-- The first of the tokens read is the current one. -/
theorem Reads.current (reads : before.Reads tokens after) (nonempty : tokens ≠ []) :
    tokens.head? = some before.current := by
  obtain ⟨first, rest, rfl⟩ := List.exists_cons_of_ne_nil nonempty
  simp [Cursor.current, ahead, reads.unread]

/-- What lies ahead of the later place lies ahead of the earlier one, past the tokens read. -/
theorem Reads.ahead (reads : before.Reads tokens after) (distance : Nat) :
    after.ahead distance = before.ahead (tokens.length + distance) := by
  rw [Cursor.ahead, Cursor.ahead, reads.unread, reads.ending, List.getD_eq_getElem?_getD,
    List.getD_eq_getElem?_getD, List.getElem?_append_right (by omega), Nat.add_sub_cancel_left]

/-- The span from the current token to the last one read covers all tokens read. -/
theorem Reads.spanFrom (reads : before.Reads tokens after) (nonempty : tokens ≠ []) :
    after.spanFrom before.current.span.start = cover tokens := by
  have first := reads.current nonempty
  have last := List.getLast?_eq_some_getLast nonempty
  simp [Cursor.spanFrom, cover, startOf, stopOf?, reads.lastStop, first, last]

/-- Where some tokens were read, the last one consumed is the last of them. -/
theorem Reads.lastStop_eq (reads : before.Reads tokens after) (nonempty : tokens ≠ []) :
    after.lastStop = stopOf? tokens := by
  have last := List.getLast?_eq_some_getLast nonempty
  rw [reads.lastStop, stopOf?, last]
  rfl

/-- One place further on, everything lies one token nearer. -/
theorem advance_ahead (cursor : Cursor) (distance : Nat) :
    cursor.advance.ahead distance = cursor.ahead (distance + 1) := by
  obtain ⟨unread, ending, lastStop, rejected⟩ := cursor
  cases unread with
  | nil => rfl
  | cons token rest => simp [advance, ahead]

/-- A current token that is not the end is consumed by an advance. -/
theorem reads_advance {cursor : Cursor} (ends : cursor.Ends)
    (more : cursor.current.kind ≠ .endOfInput) :
    cursor.Reads [cursor.current] cursor.advance := by
  obtain ⟨unread, ending, lastStop, rejected⟩ := cursor
  cases unread with
  | nil => exact absurd ends more
  | cons token rest => exact ⟨rfl, rfl, rfl⟩

theorem reads_advance_of_kind {cursor : Cursor} {kind : TokenKind} (ends : cursor.Ends)
    (found : cursor.current.kind = kind) (more : kind ≠ .endOfInput) :
    cursor.Reads [cursor.current] cursor.advance :=
  reads_advance ends (found ▸ more)

theorem reads_advance_of_class {cursor : Cursor} {isClass : TokenKind → Bool}
    (ends : cursor.Ends) (found : isClass cursor.current.kind)
    (more : isClass .endOfInput = false) : cursor.Reads [cursor.current] cursor.advance := by
  apply reads_advance ends
  intro atEnd
  rw [atEnd, more] at found
  exact Bool.false_ne_true found

end Cursor

namespace Parse

variable {Value Result : Type} {cursor : Cursor}

/-- If the parser succeeds at the place, its value and the place after it are as stated. -/
def Ensures (cursor : Cursor) (parser : Parser Value) (holds : Value → Cursor → Prop) : Prop :=
  ∀ value after, parser cursor = (.ok value, after) → holds value after

theorem bind_run (parser : Parser Value) (next : Value → Parser Result) (cursor : Cursor) :
    (parser >>= next) cursor = match parser cursor with
      | (.ok value, after) => next value after
      | (.error error, after) => (.error error, after) := by
  change ExceptT.bind parser next cursor = _
  simp only [ExceptT.bind, ExceptT.mk, bind, StateT.bind]
  rcases parser cursor with ⟨_ | _, _⟩ <;> rfl

theorem bind_ok_iff {parser : Parser Value} {next : Value → Parser Result} {value : Result}
    {after : Cursor} :
    (parser >>= next) cursor = (.ok value, after) ↔
      ∃ first middle,
        parser cursor = (.ok first, middle) ∧ next first middle = (.ok value, after) := by
  rw [bind_run]
  rcases parser cursor with ⟨error | first, middle⟩
  · constructor
    · rintro ⟨⟩
    · rintro ⟨_, _, ⟨⟩, _⟩
  · constructor
    · exact fun run => ⟨first, middle, rfl, run⟩
    · rintro ⟨_, _, ⟨⟩, run⟩
      exact run

theorem bind_error {parser : Parser Value} {next : Value → Parser Result} {error : SyntaxError}
    {later : Cursor} (fails : parser cursor = (.error error, later)) :
    (parser >>= next) cursor = (.error error, later) := by
  rw [bind_run, fails]

theorem bind_look {parser : Parser Value} {next : Value → Parser Result} {value : Value}
    (run : parser cursor = (.ok value, cursor)) : (parser >>= next) cursor = next value cursor := by
  rw [bind_run, run]

theorem kindAhead_run (distance : Nat) :
    kindAhead distance cursor = (.ok (cursor.ahead distance).kind, cursor) := rfl

theorem offset_run : offset cursor = (.ok cursor.current.span.start, cursor) := rfl

theorem remaining_run : remaining cursor = (.ok cursor.position, cursor) := rfl

namespace Ensures

variable {holds weaker : Value → Cursor → Prop}

theorem mono {parser : Parser Value} (ensured : Ensures cursor parser holds)
    (weaken : ∀ value after, holds value after → weaker value after) :
    Ensures cursor parser weaker :=
  fun value after run => weaken value after (ensured value after run)

end Ensures

/-! ### What the steps ensure -/

section
variable {holds : Value → Cursor → Prop}

@[simp] theorem ensures_bind {parser : Parser Value} {next : Value → Parser Result}
    {holds : Result → Cursor → Prop} :
    Ensures cursor (parser >>= next) holds ↔
      Ensures cursor parser fun value after => Ensures after (next value) holds := by
  simp only [Ensures, bind_ok_iff]
  constructor
  · exact fun ensured first middle run value after rest => ensured value after ⟨_, _, run, rest⟩
  · rintro ensured value after ⟨first, middle, run, rest⟩
    exact ensured first middle run value after rest

theorem ensures_of_ok {parser : Parser Value} {value : Value} {after : Cursor}
    (run : parser cursor = (.ok value, after)) :
    Ensures cursor parser holds ↔ holds value after := by
  constructor
  · exact fun ensured => ensured value after run
  · intro held found place same
    obtain ⟨⟨⟩, rfl⟩ := Prod.mk.inj (run.symm.trans same)
    exact held

@[simp] theorem ensures_pure {value : Value} :
    Ensures cursor (pure value) holds ↔ holds value cursor := ensures_of_ok rfl

@[simp] theorem ensures_fail {expected : Expected} : Ensures cursor (fail expected) holds := by
  intro value after run
  cases run

@[simp] theorem ensures_current {holds : Token → Cursor → Prop} :
    Ensures cursor Parse.current holds ↔ holds cursor.current cursor := ensures_of_ok rfl

@[simp] theorem ensures_kindAhead {distance : Nat} {holds : TokenKind → Cursor → Prop} :
    Ensures cursor (kindAhead distance) holds ↔ holds (cursor.ahead distance).kind cursor :=
  ensures_of_ok rfl

@[simp] theorem ensures_offset {holds : Nat → Cursor → Prop} :
    Ensures cursor offset holds ↔ holds cursor.current.span.start cursor := ensures_of_ok rfl

@[simp] theorem ensures_advance {holds : Unit → Cursor → Prop} :
    Ensures cursor advance holds ↔ holds () cursor.advance := ensures_of_ok rfl

@[simp] theorem ensures_terminal {holds : Span → Cursor → Prop} :
    Ensures cursor terminal holds ↔ holds cursor.current.span cursor.advance := ensures_of_ok rfl

@[simp] theorem ensures_spanFrom {start : Nat} {holds : Span → Cursor → Prop} :
    Ensures cursor (spanFrom start) holds ↔ holds (cursor.spanFrom start) cursor :=
  ensures_of_ok rfl

@[simp] theorem ensures_get {holds : Cursor → Cursor → Prop} :
    Ensures cursor get holds ↔ holds cursor cursor := ensures_of_ok rfl

@[simp] theorem ensures_modify {change : Cursor → Cursor} {holds : PUnit → Cursor → Prop} :
    Ensures cursor (modify change) holds ↔ holds () (change cursor) := ensures_of_ok rfl

@[simp] theorem ensures_remaining {holds : Nat → Cursor → Prop} :
    Ensures cursor remaining holds ↔ holds cursor.position cursor := ensures_of_ok rfl

@[simp] theorem ensures_atKind {kind : TokenKind} {holds : Bool → Cursor → Prop} :
    Ensures cursor (atKind kind) holds ↔ holds (cursor.current.kind == kind) cursor :=
  ensures_of_ok rfl

@[simp] theorem ensures_atSymbol {sign : Symbol} {holds : Bool → Cursor → Prop} :
    Ensures cursor (atSymbol sign) holds ↔
      holds (cursor.current.kind == .symbol sign) cursor :=
  ensures_of_ok rfl

@[simp] theorem ensures_atKeyword {word : Keyword} {holds : Bool → Cursor → Prop} :
    Ensures cursor (atKeyword word) holds ↔
      holds (cursor.current.kind == .keyword word) cursor :=
  ensures_of_ok rfl

@[simp] theorem ensures_expectKind {kind : TokenKind} {holds : Span → Cursor → Prop} :
    Ensures cursor (expectKind kind) holds ↔
      (cursor.current.kind = kind → holds cursor.current.span cursor.advance) := by
  unfold expectKind
  by_cases found : cursor.current.kind = kind <;> simp [found]

@[simp] theorem ensures_expectSymbol {sign : Symbol} {holds : Span → Cursor → Prop} :
    Ensures cursor (expectSymbol sign) holds ↔
      (cursor.current.kind = .symbol sign → holds cursor.current.span cursor.advance) :=
  ensures_expectKind

@[simp] theorem ensures_expectKeyword {word : Keyword} {holds : Span → Cursor → Prop} :
    Ensures cursor (expectKeyword word) holds ↔
      (cursor.current.kind = .keyword word → holds cursor.current.span cursor.advance) := by
  unfold expectKeyword
  by_cases found : cursor.current.kind = .keyword word <;> simp [found]

/-- An attempt gives the value that the parser would give, or nothing at any later place. -/
theorem ensures_attempt {parser : Parser Value} {holds : Option Value → Cursor → Prop}
    (success : Ensures cursor parser fun value after => holds (some value) after)
    (failure : ∀ after, holds none after) : Ensures cursor (attempt parser) holds := by
  intro found after run
  rw [attempt] at run
  split at run
  · rename_i value later succeeded
    cases run
    exact success value _ succeeded
  · cases run
    exact failure _

end

/-- Wherever the parser succeeds, it has consumed tokens that make up the given phrase. -/
def Finds (parser : Parser Value) (phrase : Value → List Token → Prop) : Prop :=
  ∀ {cursor : Cursor}, cursor.Ends →
    Ensures cursor parser fun value after =>
      ∃ tokens, cursor.Reads tokens after ∧ phrase value tokens

/-- What is found is kept as a phrase of another kind. -/
theorem Ensures.kept {parser : Parser Value} {keep : Value → Result}
    {phrase : Value → List Token → Prop} {wanted : Result → List Token → Prop}
    (found : Ensures cursor parser fun value after =>
      ∃ tokens, cursor.Reads tokens after ∧ phrase value tokens)
    (becomes : ∀ {value tokens}, phrase value tokens → wanted (keep value) tokens) :
    Ensures cursor (do return keep (← parser)) fun value after =>
      ∃ tokens, cursor.Reads tokens after ∧ wanted value tokens := by
  simp only [ensures_bind, ensures_pure]
  refine found.mono ?_
  intro value after taken
  obtain ⟨tokens, reads, held⟩ := taken
  exact ⟨tokens, reads, becomes held⟩

end Parse

end AnnotatedSql.Grammar
