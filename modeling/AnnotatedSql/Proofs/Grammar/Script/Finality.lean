/-
This file shows that an error is final: it is found at the furthest token that the parser has come
to, and whatever stands behind the two tokens that follow, the same error is found there.
-/

import AnnotatedSql.Proofs.Grammar.Locality.Statement
import AnnotatedSql.Proofs.Grammar.Script.Abreast
import AnnotatedSql.Proofs.Grammar.Script.Ending
import AnnotatedSql.Proofs.Token.Respacing

namespace AnnotatedSql

/-- The token with its place left out of account. -/
def Token.atOrigin (token : Token) : Token := token.relocate fun _ => 0

/-- Nothing but its kind and its text is kept of a token. -/
theorem Token.map_atOrigin {first second : List Token}
    (same : first.map Token.unplaced = second.map Token.unplaced) :
    first.map Token.atOrigin = second.map Token.atOrigin := by
  have placed := congrArg (List.map fun part => Token.mk part.1 part.2 ⟨0, 0⟩) same
  rw [List.map_map, List.map_map] at placed
  exact placed

namespace Grammar

variable {tokens others : List Token} {error : SyntaxError} {later : Cursor}

/-! ### Tokens that end once -/

theorem EndsOnce.concat (once : EndsOnce tokens) :
    ∃ content ending, tokens = content ++ [ending] ∧ ending.kind = .endOfInput ∧
      ∀ token ∈ content, token.kind ≠ .endOfInput := by
  obtain ⟨content, ending, rfl⟩ := (List.eq_nil_or_concat' tokens).resolve_left once.nonempty
  have last := once.last
  have inner := once.inner
  rw [List.dropLast_concat] at inner
  rw [Cursor.Ends, Cursor.ofTokens, List.getLastD_concat] at last
  exact ⟨content, ending, rfl, last, inner⟩

/-- Tokens that start with tokens that end once are no more than those. -/
theorem EndsOnce.eq_of_prefix (once : EndsOnce tokens) (otherOnce : EndsOnce others)
    (leads : tokens <+: others) : others = tokens := by
  obtain ⟨content, ending, rfl, last, _⟩ := once.concat
  obtain ⟨rest, rfl⟩ := leads
  rcases List.eq_nil_or_concat' rest with rfl | ⟨more, final, rfl⟩
  · rw [List.append_nil]
  · refine absurd last (otherOnce.inner ending ?_)
    rw [← List.append_assoc, List.dropLast_concat]
    simp

/-- Tokens that agree with such as go on for longer go on themselves. -/
theorem EndsOnce.split {count : Nat} (once : EndsOnce tokens) (otherOnce : EndsOnce others)
    (more : count < tokens.length) (agree : others.take count = tokens.take count) :
    ∃ known rest ending following other, known.length = count ∧
      tokens = known ++ rest ++ [ending] ∧ others = known ++ following ++ [other] := by
  obtain ⟨content, ending, rfl, last, inner⟩ := once.concat
  obtain ⟨otherContent, other, rfl, otherLast, _⟩ := otherOnce.concat
  rw [List.length_append, List.length_singleton] at more
  have few : count ≤ content.length := Nat.le_of_lt_succ more
  rw [List.take_append_of_le_length few] at agree
  have size : (content.take count).length = count := List.length_take_of_le few
  have otherFew : count ≤ otherContent.length := by
    by_contra short
    have whole : (otherContent ++ [other]).take count = otherContent ++ [other] :=
      List.take_of_length_le (by rw [List.length_append]; exact Nat.lt_of_not_le short)
    refine absurd otherLast (inner other (List.mem_of_mem_take (i := count) ?_))
    rw [← agree, whole]
    simp
  rw [List.take_append_of_le_length otherFew] at agree
  refine ⟨content.take count, content.drop count, ending, otherContent.drop count, other, size,
    ?_, ?_⟩
  · rw [List.take_append_drop]
  · rw [← agree, List.take_append_drop]

/-! ### Errors -/

/-- The only run of a statement comes to what its parser gives. -/
theorem Parse.statement_run (once : EndsOnce tokens) :
    ∃ events, Runs ⟨.statement, (Cursor.ofTokens tokens).position⟩ Routine.statement.body
      (.ofTokens tokens) events (Parse.statement (.ofTokens tokens)).1
      (Parse.statement (.ofTokens tokens)).2 ∧
      ∀ event ∈ events, event.Within (Parse.statement (.ofTokens tokens)).2.position
        (Cursor.ofTokens tokens).position :=
  (Script.statement_performs once.last _ (Parse.ofTokens_valid tokens)
    (Nat.le_refl _)).course.runs

/-- An error is found at the token where the parser stops. -/
theorem Parse.statement_blames (once : EndsOnce tokens)
    (run : Parse.statement (.ofTokens tokens) = (.error error, later)) :
    ∃ expected token, tokens[later.indexIn tokens]? = some token ∧
      error = .atToken expected token := by
  obtain ⟨expected, blamed⟩ := Parse.blames_statementWith .never _ error later run
  have valid := (Script.statement_performs once.last _ (Parse.ofTokens_valid tokens)
    (Nat.le_refl _)).course.valid
  rw [run] at valid
  exact ⟨expected, later.current, valid.follows.current once.nonempty, blamed⟩

/-- What follows the two tokens behind an error does not matter. -/
theorem Parse.statement_error_alike (once : EndsOnce tokens) (otherOnce : EndsOnce others)
    (run : Parse.statement (.ofTokens tokens) = (.error error, later))
    (agree : others.take (later.indexIn tokens + 3) = tokens.take (later.indexIn tokens + 3)) :
    ∃ place, Parse.statement (.ofTokens others) = (.error error, place) ∧
      place.indexIn others = later.indexIn tokens := by
  rcases Nat.lt_or_ge (later.indexIn tokens + 3) tokens.length with more | few
  · obtain ⟨known, rest, ending, following, other, size, rfl, rfl⟩ :=
      once.split otherOnce more agree
    obtain ⟨events, runs, within⟩ := Parse.statement_run once
    rw [run] at runs within
    have start : Cursor.Abreast rest following ending other
        (.ofTokens (known ++ rest ++ [ending])) (.ofTokens (known ++ following ++ [other])) :=
      ⟨known, none, [], ofTokens_concat _ _, ofTokens_concat _ _⟩
    have left : later.position = rest.length + 3 := by
      have onward := runs.onward
      simp only [Cursor.indexIn, ofTokens_concat, Cursor.position,
        List.length_append, List.length_singleton] at size more onward ⊢
      omega
    have confined : Confined (rest.length + 3) events later :=
      left ▸ ⟨fun event member => (within event member).least, Nat.le_refl _⟩
    obtain ⟨_, place, otherRuns, along⟩ := runs.abreast
      ⟨.statement, (Cursor.ofTokens (known ++ following ++ [other])).position⟩ start confined
    obtain ⟨_, found, _⟩ := Parse.statement_run otherOnce
    obtain ⟨_, outcome, place_eq⟩ := otherRuns.unique found
    refine ⟨place, Prod.ext outcome place_eq, ?_⟩
    have position := along.position
    simp only [Cursor.indexIn, List.length_append, List.length_singleton] at size more position ⊢
    omega
  · rw [List.take_of_length_le few] at agree
    obtain rfl := once.eq_of_prefix otherOnce (agree ▸ List.take_prefix _ _)
    exact ⟨later, run, rfl⟩

/-! ### Tokens without their places -/

theorem EndsOnce.atOrigin (once : EndsOnce tokens) : EndsOnce (tokens.map Token.atOrigin) := by
  obtain ⟨content, ending, rfl, last, inner⟩ := once.concat
  rw [List.map_append, List.map_singleton]
  refine ⟨?_, by simp, ?_⟩
  · rw [ofTokens_concat]
    exact last
  · rw [List.dropLast_concat, List.forall_mem_map]
    exact inner

/-- Without their places tokens make the same statement or fail at the same token, but for the
places. -/
theorem Parse.statement_atOrigin (once : EndsOnce tokens) :
    (Parse.statement (.ofTokens (tokens.map Token.atOrigin))).1 =
        relocateOutcome (fun _ => 0) (Parse.statement (.ofTokens tokens)).1 ∧
      ∀ error, (Parse.statement (.ofTokens tokens)).1 = .error error →
        (Parse.statement (.ofTokens (tokens.map Token.atOrigin))).2.indexIn
            (tokens.map Token.atOrigin) =
          (Parse.statement (.ofTokens tokens)).2.indexIn tokens := by
  obtain ⟨content, ending, rfl, last, inner⟩ := once.concat
  have alike (token : Token) : token.atOrigin.Alike (fun _ => 0) token := ⟨rfl, rfl, rfl⟩
  have pairs : List.Forall₂ (Token.Alike fun _ => 0) (content.map Token.atOrigin) content := by
    rw [List.forall₂_map_left_iff, List.forall₂_same]
    exact fun token _ => alike token
  obtain ⟨same, place⟩ :=
    Parse.statement_relocated_place (fun _ => Nat.le_refl 0) pairs (alike ending) last inner
  rw [List.map_append, List.map_singleton]
  refine ⟨same, fun error fails => ?_⟩
  rw [Cursor.indexIn, Cursor.indexIn, place error fails, List.length_append, List.length_append,
    List.length_map]
  rfl

/-! ### All tokens -/

theorem SyntaxError.alike_of_relocate {move : Nat → Nat} {first second : SyntaxError}
    (same : first.relocate move = second.relocate move) :
    first.reason = second.reason ∧ first.expected? = second.expected? ∧
      first.found? = second.found? := by
  cases first <;> cases second <;>
    simp only [relocate, lexical.injEq, unexpected.injEq, reduceCtorEq] at same
  case lexical => exact ⟨by rw [reason, reason, same.1], rfl, rfl⟩
  case unexpected =>
    obtain ⟨rfl, rfl, _⟩ := same
    exact ⟨rfl, rfl, rfl⟩

/-- An error is found at the furthest token that ever was the current one, also in what was tried in
vain. Whatever tokens agree with these in kind and text up to the second one behind the error fail
for the same reason, at the token with the same index. -/
theorem statement_error_final (tokens : List Token) (once : EndsOnce tokens) (error : SyntaxError)
    (later : Cursor) (run : Parse.statement (.ofTokens tokens) = (.error error, later)) :
    (∃ expected token, tokens[later.indexIn tokens]? = some token ∧
      error = .atToken expected token) ∧
    (∃ events,
      (∀ others outcome place,
        Runs ⟨.statement, (Cursor.ofTokens tokens).position⟩ Routine.statement.body
            (.ofTokens tokens) others outcome place ↔
          others = events ∧ outcome = .error error ∧ place = later) ∧
      ∀ event ∈ events, event.position < tokens.length ∧
        tokens.length - 1 - event.position ≤ later.indexIn tokens) ∧
    ∀ others, EndsOnce others →
      (others.take (later.indexIn tokens + 3)).map Token.unplaced =
        (tokens.take (later.indexIn tokens + 3)).map Token.unplaced →
      ∃ other place, Parse.statement (.ofTokens others) = (.error other, place) ∧
        place.indexIn others = later.indexIn tokens ∧
        (∃ expected token, others[later.indexIn tokens]? = some token ∧
          other = .atToken expected token) ∧
        other.reason = error.reason ∧ other.expected? = error.expected? ∧
        other.found? = error.found? := by
  refine ⟨Parse.statement_blames once run, ?_, ?_⟩
  · obtain ⟨events, runs, within⟩ := Parse.statement_run once
    rw [run] at runs within
    refine ⟨events, fun others outcome place => ⟨runs.unique, ?_⟩, fun event member => ?_⟩
    · rintro ⟨rfl, rfl, rfl⟩
      exact runs
    · obtain ⟨_, least, most⟩ := within event member
      change later.position ≤ event.position at least
      have size : (Cursor.ofTokens tokens).position < tokens.length := by
        rw [Cursor.position, Cursor.ofTokens, List.length_dropLast]
        exact Nat.sub_lt (List.length_pos_iff.mpr once.nonempty) Nat.one_pos
      rw [Cursor.indexIn]
      omega
  · intro others otherOnce agree
    obtain ⟨outcome, index⟩ := Parse.statement_atOrigin once
    obtain ⟨otherOutcome, otherIndex⟩ := Parse.statement_atOrigin otherOnce
    rw [run] at outcome index
    replace index := index error rfl
    have plain : Parse.statement (.ofTokens (tokens.map Token.atOrigin)) =
        (.error (error.relocate fun _ => 0), _) := Prod.ext outcome rfl
    have same : (others.map Token.atOrigin).take (later.indexIn tokens + 3) =
        (tokens.map Token.atOrigin).take (later.indexIn tokens + 3) := by
      rw [← List.map_take, ← List.map_take]
      exact Token.map_atOrigin agree
    obtain ⟨place, otherPlain, otherPlace⟩ := Parse.statement_error_alike once.atOrigin
      otherOnce.atOrigin plain (index.symm ▸ same)
    rw [otherPlain] at otherOutcome otherIndex
    rcases otherRun : Parse.statement (.ofTokens others) with ⟨other | tree, otherLater⟩
    · rw [otherRun] at otherOutcome otherIndex
      have finds := (otherIndex other rfl).symm.trans (otherPlace.trans index)
      refine ⟨other, otherLater, rfl, finds, ?_, ?_⟩
      · rw [← finds]
        exact Parse.statement_blames otherOnce otherRun
      · exact SyntaxError.alike_of_relocate (Except.error.inj otherOutcome).symm
    · rw [otherRun] at otherOutcome
      cases otherOutcome

/-- The parenthesis is given up, and the error stands at its closing one whatever is asked for
behind the table. -/
theorem statement_error_final_trial :
    ∃ other place,
      Parse.statement (.ofTokens (tokenize "SELECT  (a + )  FROM t WHERE b = (1)".toList)) =
          (.error other, place) ∧
        other.reason = "Unexpected token: expected expression, found RightParen" ∧
        place.indexIn (tokenize "SELECT  (a + )  FROM t WHERE b = (1)".toList) = 4 := by
  have failed : ((Parse.statement (.ofTokens (tokenize "SELECT (a + ) FROM t".toList))).1.map
      fun _ => ()) = .error (.unexpected .expression (.symbol .rightParen) ⟨12, 12⟩) := by
    decide +kernel
  have index : (Parse.statement (.ofTokens (tokenize "SELECT (a + ) FROM t".toList))).2.indexIn
      (tokenize "SELECT (a + ) FROM t".toList) = 4 := by decide +kernel
  rcases run : Parse.statement (.ofTokens (tokenize "SELECT (a + ) FROM t".toList)) with
    ⟨error | tree, later⟩ <;> rw [run] at failed index
  · obtain rfl := Except.error.inj failed
    obtain ⟨other, place, otherRun, found, _, reason, _⟩ :=
      (statement_error_final _ (endsOnce_tokenize _) _ later run).2.2
        (tokenize "SELECT  (a + )  FROM t WHERE b = (1)".toList) (endsOnce_tokenize _)
        (by rw [index]; decide +kernel)
    exact ⟨other, place, otherRun, reason.trans (by decide +kernel), found.trans index⟩
  · cases failed

end Grammar

end AnnotatedSql
