/-
This file shows that every text that the grammar derives is accepted.
-/

import AnnotatedSql.Proofs.Grammar.Completeness.Select
import AnnotatedSql.Proofs.Grammar.Soundness.Statement

namespace AnnotatedSql.Grammar

variable {tokens closing : List Token} {ending : Token} {tree : Select}

namespace Parse

/-- What may follow a statement. -/
def endsStatement (kind : TokenKind) : Bool := kind == .endOfInput

theorem closing_ahead {kind : TokenKind} (closes : Closing closing)
    (ahead : Ahead endsStatement 0 closing kind) : endsClause 5 kind := by
  cases closes with
  | absent =>
      rw [beq_iff_eq.mp ahead]
      rfl
  | present semicolon => exact ahead_token semicolon rfl kind ahead

/-- Where every parenthesis is tried again, a derived statement is taken. -/
theorem statementWith_accepts {cursor : Cursor} (derived : DerivesWidely (.select tree) tokens)
    (closes : Closing closing) (offers : cursor.Offers (tokens ++ closing) endsStatement) :
    ∃ found after, statementWith .always cursor = (.ok found, after) := by
  have taken : Accepts cursor.position
      (do let result ← Parse.select (nested .always cursor.position)
          if ← atSymbol .semicolon then
            advance
          if ← atKind .endOfInput then
            return result
          else
            fail .endOfInput)
      (tokens ++ closing) endsStatement := by
    apply (select_accepts (nested_complete _) derived).here.append_bind
      fun _ => closing_ahead closes
    intro result
    have finished : Accepts cursor.position
        (do if ← atKind .endOfInput then return result else fail .endOfInput)
        [] endsStatement := by
      apply parses_atKind_bind
      intro kind ends
      rw [beq_iff_eq.mp ends]
      exact parses_pure rfl
    cases closes with
    | absent =>
        apply parses_atKind_absent _ finished
        intro kind ends same
        rw [Ahead, same] at ends
        exact Bool.false_ne_true ends
    | present semicolon =>
        apply parses_atKind_present semicolon
        apply Parses.here
        exact parses_advance_bind finished
  obtain ⟨found, after, _, _, run, _⟩ := taken cursor (Nat.le_refl _) offers
  refine ⟨found, after, ?_⟩
  rw [statementWith, bind_look remaining_run]
  exact run

/-- It is taken as well where a parenthesis that was given up is not tried again. -/
theorem statement_accepts (derived : DerivesWidely (.select tree) tokens) (closes : Closing closing)
    (ends : ending.kind = .endOfInput) :
    ∃ found, (statement (Cursor.ofTokens (tokens ++ closing ++ [ending]))).1 = .ok found := by
  have unread : (Cursor.ofTokens (tokens ++ closing ++ [ending])).unread = tokens ++ closing :=
    List.dropLast_concat
  have last : (Cursor.ofTokens (tokens ++ closing ++ [ending])).ending = ending :=
    List.getLastD_concat
  have offers : (Cursor.ofTokens (tokens ++ closing ++ [ending])).Offers (tokens ++ closing)
      endsStatement := by
    constructor
    · exact ⟨[], by rw [unread, List.append_nil]⟩
    · rw [Cursor.ahead, unread, last, List.getD_eq_getElem?_getD, List.getElem?_length]
      exact beq_iff_eq.mpr ends
  obtain ⟨found, after, run⟩ := statementWith_accepts derived closes offers
  obtain ⟨outcome, later, left, memoRun, plainRun, _⟩ :=
    statementWith_agree (last ▸ ends) _ [] (ofTokens_valid _) (Nat.le_refl _)
  have fresh : { Cursor.ofTokens (tokens ++ closing ++ [ending]) with rejected := [] } =
      Cursor.ofTokens (tokens ++ closing ++ [ending]) := rfl
  rw [fresh, run] at plainRun
  obtain ⟨same, _⟩ := Prod.mk.inj plainRun
  refine ⟨found, ?_⟩
  rw [statement, memoRun, same]

/-- Every text that the grammar derives is accepted, whatever the parser takes first where the
grammar leaves a choice. -/
theorem statement_complete (tree : Select) (tokens closing : List Token) (ending : Token)
    (derived : Derives isOrdering (.select tree) tokens) (closes : Closing closing)
    (ends : ending.kind = .endOfInput) :
    ∃ found, (statement (Cursor.ofTokens (tokens ++ closing ++ [ending]))).1 = .ok found :=
  statement_accepts derived.widely closes ends

/-- The tokens of `SELECT (1) + -2`. -/
def sumTokens : List Token :=
  [⟨.keyword .SELECT, "SELECT".toList, ⟨0, 5⟩⟩, ⟨.symbol .leftParen, "(".toList, ⟨7, 7⟩⟩,
    ⟨.number, "1".toList, ⟨8, 8⟩⟩, ⟨.symbol .rightParen, ")".toList, ⟨9, 9⟩⟩,
    ⟨.symbol .plus, "+".toList, ⟨11, 11⟩⟩, ⟨.symbol .minus, "-".toList, ⟨13, 13⟩⟩,
    ⟨.number, "2".toList, ⟨14, 14⟩⟩]

/-- A row and a number with a sign, where the parser first tries an expression in parentheses. -/
theorem sumTokens_derived : ∃ tree, Derives isOrdering (.select tree) sumTokens := by
  have row : Derives isOrdering _ (sumTokens.extract 1 4) :=
    .row rfl (.singleExpr (.primary (.predicate (.bitExpr (.simple (.literal (.number rfl))))))) rfl
  have number : Derives isOrdering _ (sumTokens.extract 5 7) := .literal (.negativeNumber rfl rfl)
  have sum : Derives isOrdering _ (sumTokens.extract 1 7) :=
    .primary (.predicate (.bitExpr (.binary (.simple row) rfl (.simple number))))
  exact ⟨_, .select rfl .absent (.lastSelectItem (.exprItem sum .absent)) .absent .noCondition
    .noOrdering .noCondition .noOrdering⟩

theorem statement_complete_sum :
    ∃ tree found, Derives isOrdering (.select tree) sumTokens ∧
      (statement (Cursor.ofTokens (sumTokens ++ [] ++ [Token.ending 15]))).1 = .ok found := by
  obtain ⟨tree, derived⟩ := sumTokens_derived
  obtain ⟨found, accepted⟩ :=
    statement_complete tree sumTokens [] (Token.ending 15) derived .absent rfl
  exact ⟨tree, found, derived, accepted⟩

end Parse

end AnnotatedSql.Grammar
