/-
This file shows that a parser that is asked for one statement after the other goes on from a clean
place each time: from a token of the source, and with nothing of what it tried before.
-/

import AnnotatedSql.Proofs.Grammar.Backtracking.Statement
import AnnotatedSql.Proofs.Grammar.Blame
import Mathlib.Data.List.Basic

namespace AnnotatedSql.Grammar

namespace Cursor

variable {origin cursor other : Cursor} {tokens : List Token} {retry : Parse.Retry}

/-- The index of the token at which the cursor stands, in the tokens that it goes through. -/
def indexIn (cursor : Cursor) (tokens : List Token) : Nat := tokens.length - 1 - cursor.position

/-- The tokens from the cursor on are those from its index on. -/
theorem Follows.drop (follows : cursor.Follows (ofTokens tokens)) (nonempty : tokens ≠ []) :
    tokens.drop (cursor.indexIn tokens) = cursor.unread ++ [cursor.ending] ∧
      cursor.indexIn tokens + cursor.position + 1 = tokens.length := by
  obtain ⟨content, last, rfl⟩ := (List.eq_nil_or_concat' tokens).resolve_left nonempty
  obtain ⟨read, reads⟩ := follows
  have whole : content = read ++ cursor.unread := by simpa [ofTokens] using reads.unread
  have ending : cursor.ending = last := by simpa [ofTokens] using reads.ending
  have index : cursor.indexIn (content ++ [last]) = read.length := by
    simp [indexIn, position, whole]
  constructor
  · rw [index, whole, ending, List.append_assoc, List.drop_left]
  · rw [index, position, whole, List.length_append, List.length_append]
    rfl

theorem Follows.current (follows : cursor.Follows (ofTokens tokens)) (nonempty : tokens ≠ []) :
    tokens[cursor.indexIn tokens]? = some cursor.current := by
  rw [← List.head?_drop, (follows.drop nonempty).1]
  obtain ⟨unread, ending, lastStop, rejected⟩ := cursor
  cases unread <;> rfl

/-- A cursor that starts where another one stands. -/
theorem ofTokens_rest (cursor : Cursor) :
    ofTokens (cursor.unread ++ [cursor.ending]) = ⟨cursor.unread, cursor.ending, none, []⟩ := by
  rw [ofTokens, List.dropLast_concat, List.getLastD_concat]

/-- What a cursor gave up for good stays so if one looks only at what lies behind it. -/
theorem Valid.here (valid : Valid origin retry cursor) : Valid cursor retry cursor := by
  refine ⟨⟨[], .refl _⟩, ?_⟩
  intro never position member place follows
  obtain ⟨tokens, reads⟩ := valid.follows
  obtain ⟨others, further⟩ := follows
  exact valid.remembers never position member place ⟨tokens ++ others, reads.trans further⟩

/-- The cursors stand before the same tokens. -/
structure Level (cursor other : Cursor) : Prop where
  unread : cursor.unread = other.unread
  ending : cursor.ending = other.ending

theorem Level.position (level : cursor.Level other) : cursor.position = other.position := by
  rw [Cursor.position, Cursor.position, level.unread]

theorem Level.current (level : cursor.Level other) : cursor.current = other.current := by
  rw [Cursor.current, Cursor.current, ahead, ahead, level.unread, level.ending]

end Cursor

theorem SyntaxError.span_atToken (expected : Expected) (token : Token) :
    (SyntaxError.atToken expected token).span = token.span := by
  unfold SyntaxError.atToken
  split <;> rfl

namespace Parse

variable {cursor other : Cursor} {source : Text}

/-! ### Where the last token stops -/

/-- Only the word SELECT stands between a statement and the token before it, so it does not matter
where that one stops. -/
theorem statementWith_level (retry : Retry) (ends : cursor.Ends) (level : cursor.Level other)
    (rejected : cursor.rejected = other.rejected) :
    (statementWith retry cursor).1 = (statementWith retry other).1 ∧
      (statementWith retry cursor).2.Level (statementWith retry other).2 := by
  have start (cursor : Cursor) : expectKeyword .SELECT cursor =
      if cursor.current.kind = .keyword .SELECT then (.ok cursor.current.span, cursor.advance)
      else (.error (.atToken (.keyword .SELECT) cursor.current), cursor) := by
    by_cases found : cursor.current.kind = .keyword .SELECT
    · rw [if_pos found]
      change (if (cursor.current.kind == .keyword .SELECT) = true then _ else _ : Parser _) cursor = _
      rw [found]
      rfl
    · rw [if_neg found]
      change (if (cursor.current.kind == .keyword .SELECT) = true then _ else _ : Parser _) cursor = _
      rw [if_neg (by simpa using found)]
      rfl
  have depth := level.position
  by_cases found : cursor.current.kind = .keyword .SELECT
  · have moved : cursor.advance = other.advance := by
      obtain ⟨unread, ending, lastStop, noted⟩ := cursor
      obtain ⟨others, otherEnding, otherStop, otherNoted⟩ := other
      obtain ⟨rfl, rfl⟩ := level
      obtain rfl := rejected
      cases unread with
      | nil =>
          rw [show Cursor.current ⟨[], ending, lastStop, noted⟩ = ending from rfl, ends] at found
          cases found
      | cons token rest => rfl
    have same (nested : Nested) : select nested cursor = select nested other := by
      rw [select, bind_look offset_run, bind_look offset_run, level.current, bind_run, bind_run,
        start, start, ← level.current, if_pos found, if_pos found, moved]
    have whole : statementWith retry cursor = statementWith retry other := by
      rw [statementWith, bind_look remaining_run, bind_look remaining_run, depth, bind_run, bind_run,
        same]
    rw [whole]
    exact ⟨rfl, rfl, rfl⟩
  · have fails {cursor : Cursor} (missing : cursor.current.kind ≠ .keyword .SELECT) :
        statementWith retry cursor =
          (.error (.atToken (.keyword .SELECT) cursor.current), cursor) := by
      rw [statementWith, bind_look remaining_run]
      apply bind_error
      rw [select, bind_look offset_run]
      apply bind_error
      rw [start, if_neg missing]
    rw [fails found, fails (level.current ▸ found), level.current]
    exact ⟨rfl, level⟩

/-- Before the same tokens the same statement is found, or the same error, and as many tokens are
left, whatever was tried before. -/
theorem statement_level (ends : cursor.Ends) (valid : Cursor.Valid cursor .never cursor)
    (otherValid : Cursor.Valid other .never other) (level : cursor.Level other) :
    (statement cursor).1 = (statement other).1 ∧ (statement cursor).2.Level (statement other).2 := by
  have otherEnds : other.Ends := by
    rw [Cursor.Ends, ← level.ending]
    exact ends
  obtain ⟨outcome, later, left, run, plainRun, _⟩ :=
    statementWith_agree ends cursor [] valid (Nat.le_refl _)
  obtain ⟨otherOutcome, otherLater, otherLeft, otherRun, otherPlainRun, _⟩ :=
    statementWith_agree otherEnds other [] otherValid (Nat.le_refl _)
  have bareEnds : Cursor.Ends { cursor with rejected := [] } := ends
  have bareLevel : Cursor.Level { cursor with rejected := [] } { other with rejected := [] } :=
    ⟨level.unread, level.ending⟩
  obtain ⟨same, place⟩ := statementWith_level .always bareEnds bareLevel rfl
  rw [plainRun, otherPlainRun] at same place
  rw [statement, run, otherRun]
  exact ⟨same, place.unread, place.ending⟩

/-! ### One statement after the other -/

theorem tokenize_ne_nil (source : Text) : tokenize source ≠ [] := by
  obtain ⟨content, ending, whole, _⟩ := tokenize_end source
  rw [whole]
  exact List.append_ne_nil_of_right_ne_nil _ (List.cons_ne_nil _ _)

/-- Different tokens of a source have different spans. -/
theorem index_of_span {first second : Nat} {token later : Token}
    (found : (tokenize source)[first]? = some token)
    (otherFound : (tokenize source)[second]? = some later) (same : token.span = later.span) :
    first = second := by
  obtain ⟨within, rfl⟩ := List.getElem?_eq_some_iff.mp found
  obtain ⟨otherWithin, rfl⟩ := List.getElem?_eq_some_iff.mp otherFound
  have extent := (Reader.ofSource source).tokens_ordered.1
  have ordered := List.pairwise_iff_getElem.mp (Reader.ofSource source).tokens_ordered.2
  have apart {first second : Nat} (within : first < (tokenize source).length)
      (otherWithin : second < (tokenize source).length) (less : first < second) :
      (tokenize source)[first].span ≠ (tokenize source)[second].span := by
    intro same
    have precedes := ordered first second within otherWithin less
    have start := (extent _ (List.getElem_mem within)).2
    change (tokenize source)[first].span.stop < (tokenize source)[second].span.start at precedes
    change (tokenize source)[first].span.start ≤ (tokenize source)[first].span.stop at start
    rw [← same] at precedes
    omega
  rcases Nat.lt_trichotomy first second with less | same | more
  · exact absurd same (apart within otherWithin less)
  · exact same
  · exact absurd same.symm (apart otherWithin within more)

section
variable (source) (calls : Nat)

theorem afterStatements_follows :
    (afterStatements source calls).Follows (Cursor.ofTokens (tokenize source)) :=
  (afterStatements_valid source calls).follows

theorem afterStatements_ends : (afterStatements source calls).Ends := by
  obtain ⟨tokens, reads⟩ := afterStatements_follows source calls
  exact reads.ends (Cursor.ofTokens_ends source)

/-- No call goes back. -/
theorem afterStatements_position :
    (afterStatements source (calls + 1)).position ≤ (afterStatements source calls).position := by
  obtain ⟨outcome, later, left, run, _, validLater, _⟩ :=
    statementWith_agree (afterStatements_ends source calls) (afterStatements source calls) []
      (afterStatements_valid source calls).here (Nat.le_refl _)
  obtain ⟨tokens, reads⟩ := validLater.follows
  rw [afterStatements, statement, run, reads.position]
  exact Nat.le_add_left _ _

/-- A statement is found where no token but the end is left. -/
theorem statement_ok_current {tree : Select}
    (found : (statement (afterStatements source calls)).1 = .ok tree) :
    (afterStatements source (calls + 1)).current.kind = .endOfInput := by
  have atEnd : Ensures (afterStatements source calls) statement
      fun _ later => later.current.kind = .endOfInput := by
    rw [statement, statementWith, ensures_bind, ensures_remaining, ensures_bind]
    intro tree middle _
    have finishes (cursor : Cursor) : Ensures cursor
        (do if ← atKind .endOfInput then return tree else fail .endOfInput)
        fun _ later => later.current.kind = .endOfInput := by
      rw [ensures_bind, ensures_atKind]
      split
      next ends => exact ensures_pure.mpr (by simpa using ends)
      next => exact ensures_fail
    rw [ensures_bind, ensures_atSymbol]
    split
    · rw [ensures_bind, ensures_advance]
      exact finishes _
    · exact finishes middle
  exact atEnd tree _ (Prod.ext found rfl)

/-- Past all tokens there is only the end. -/
theorem unread_of_current {cursor : Cursor}
    (follows : cursor.Follows (Cursor.ofTokens (tokenize source)))
    (atEnd : cursor.current.kind = .endOfInput) : cursor.unread = [] := by
  obtain ⟨content, ending, whole, _, others⟩ := tokenize_end source
  obtain ⟨read, reads⟩ := follows
  have unread : content = read ++ cursor.unread := by
    have unread := reads.unread
    rwa [whole, Cursor.ofTokens, List.dropLast_concat] at unread
  obtain ⟨unreadTokens, last, lastStop, rejected⟩ := cursor
  cases unreadTokens with
  | nil => rfl
  | cons token rest =>
      have member : token ∈ content := by
        rw [unread]
        exact List.mem_append_right _ List.mem_cons_self
      exact absurd atEnd (others token member)

/-- A call does what a new parser would do that is given only the tokens from there on. -/
theorem statement_resumed :
    let cursor := afterStatements source calls
    let fresh := Cursor.ofTokens ((tokenize source).drop (cursor.indexIn (tokenize source)))
    (statement cursor).1 = (statement fresh).1 ∧
      (statement cursor).2.Level (statement fresh).2 := by
  intro cursor fresh
  have same : fresh = ⟨cursor.unread, cursor.ending, none, []⟩ := by
    rw [← cursor.ofTokens_rest, ← ((afterStatements_follows source calls).drop
      (tokenize_ne_nil source)).1]
  refine statement_level (afterStatements_ends source calls)
    (afterStatements_valid source calls).here (ofTokens_valid _) ?_
  rw [same]
  exact ⟨rfl, rfl⟩

/-- A call that fails where it starts is repeated by every later call. -/
theorem statement_stuck {error : SyntaxError}
    (fails : (statement (afterStatements source calls)).1 = .error error)
    (stays : (afterStatements source (calls + 1)).position =
      (afterStatements source calls).position) (more : Nat) :
    (statement (afterStatements source (calls + more))).1 = .error error ∧
      (afterStatements source (calls + more)).Level (afterStatements source calls) := by
  have level : (afterStatements source (calls + 1)).Level (afterStatements source calls) := by
    have same := (afterStatements_follows source calls).same_place
      (afterStatements_follows source (calls + 1)) stays.symm
    rw [same]
    exact ⟨rfl, rfl⟩
  induction more with
  | zero => exact ⟨fails, rfl, rfl⟩
  | succ more ih =>
      have next := statement_level (afterStatements_ends source (calls + more))
        (afterStatements_valid source (calls + more)).here
        (afterStatements_valid source calls).here ih.2
      have still : (afterStatements source (calls + (more + 1))).Level
          (afterStatements source calls) :=
        ⟨next.2.unread.trans level.unread, next.2.ending.trans level.ending⟩
      have again := statement_level (afterStatements_ends source (calls + (more + 1)))
        (afterStatements_valid source (calls + (more + 1))).here
        (afterStatements_valid source calls).here still
      exact ⟨again.1.trans fails, still⟩

/-- Statement after statement is parsed from the tokens of a source. Where a call fails, it leaves
the parser at the one token whose span the error has; where it succeeds, at the end of the input. No
call goes back. Each call gives what a new parser gives that has only the tokens from there on, and
leaves as many of them. A call that fails where it starts is repeated by every later one. -/
theorem statements_resume :
    let tokens := tokenize source
    let outcome := (statement (afterStatements source calls)).1
    let start := (afterStatements source calls).indexIn tokens
    let stop := (afterStatements source (calls + 1)).indexIn tokens
    let fresh := statement (Cursor.ofTokens (tokens.drop start))
    (∀ error, outcome = .error error →
      (∃ expected token, tokens[stop]? = some token ∧ error = .atToken expected token) ∧
        ∀ (index : Nat) (token : Token), tokens[index]? = some token →
          (token.span = error.span ↔ index = stop)) ∧
      (∀ tree, outcome = .ok tree →
        stop + 1 = tokens.length ∧
          ∃ token, tokens[stop]? = some token ∧ token.kind = .endOfInput) ∧
      start ≤ stop ∧
      outcome = fresh.1 ∧
      stop = start + fresh.2.indexIn (tokens.drop start) ∧
      ∀ error, outcome = .error error → stop = start →
        ∀ more, (statement (afterStatements source (calls + more))).1 = .error error := by
  intro tokens outcome start stop fresh
  have nonempty := tokenize_ne_nil source
  have follows := afterStatements_follows source (calls + 1)
  obtain ⟨rest, length⟩ := (afterStatements_follows source calls).drop nonempty
  change start + (afterStatements source calls).position + 1 = tokens.length at length
  have lengthAfter : stop + (afterStatements source (calls + 1)).position + 1 = tokens.length :=
    (follows.drop nonempty).2
  have behind := afterStatements_position source calls
  have current : tokens[stop]? = some (afterStatements source (calls + 1)).current :=
    follows.current nonempty
  obtain ⟨sameOutcome, level⟩ := statement_resumed source calls
  refine ⟨?_, ?_, by omega, sameOutcome, ?_, ?_⟩
  · intro error fails
    obtain ⟨expected, blamed⟩ := blames_statementWith .never _ _ _ (Prod.ext fails rfl)
    refine ⟨⟨expected, _, current, blamed⟩, ?_⟩
    intro index token found
    rw [blamed, SyntaxError.span_atToken]
    constructor
    · exact index_of_span found current
    · rintro rfl
      exact congrArg Token.span (Option.some.inj (found.symm.trans current))
  · intro tree found
    have atEnd := statement_ok_current source calls found
    have nothing : (afterStatements source (calls + 1)).position = 0 := by
      rw [Cursor.position, unread_of_current source follows atEnd, List.length_nil]
    exact ⟨by omega, _, current, atEnd⟩
  · have left : (afterStatements source (calls + 1)).position = fresh.2.position := level.position
    have lengthRest : (tokens.drop start).length =
        (afterStatements source calls).position + 1 := by
      rw [rest, List.length_append, Cursor.position]
      rfl
    rw [Cursor.indexIn, lengthRest, ← left]
    omega
  · intro error fails same more
    exact (statement_stuck source calls fails (by omega) more).1

end

/-- The first call gives up two parentheses and fails at the second SELECT, from which the next call
goes on as if nothing had come before. -/
theorem statements_resume_after_failure :
    (afterStatements "SELECT ((a) + 1 SELECT b".toList 1).rejected = [8, 7] ∧
      (statement (afterStatements "SELECT ((a) + 1 SELECT b".toList 1)).1.isOk ∧
      (statement (afterStatements "SELECT ((a) + 1 SELECT b".toList 1)).1 =
        (statement (Cursor.ofTokens ((tokenize "SELECT ((a) + 1 SELECT b".toList).drop 7))).1 := by
  have index : (afterStatements "SELECT ((a) + 1 SELECT b".toList 1).indexIn
      (tokenize "SELECT ((a) + 1 SELECT b".toList) = 7 := by
    decide +kernel
  have resumed := (statements_resume "SELECT ((a) + 1 SELECT b".toList 1).2.2.2.1
  rw [index] at resumed
  exact ⟨by decide +kernel, by decide +kernel, resumed⟩

end Parse

end AnnotatedSql.Grammar
