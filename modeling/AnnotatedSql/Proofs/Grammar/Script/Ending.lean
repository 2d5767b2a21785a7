/-
This file shows that every routine of the parser ends, wherever it is used: what it uses lies
further on or at a lower level of the grammar, what it tries in vain leaves it where it was, and
what succeeds has consumed a token.
-/

import AnnotatedSql.Proofs.Grammar.Resumption
import AnnotatedSql.Proofs.Grammar.Script.Steps.Statement

namespace AnnotatedSql.Grammar

/-! ### The parser of a routine -/

/-- The parser for the items of a list. -/
def Item.parser (nested : Parse.Nested) : (item : Item) → Parser item.Node
  | .selectItem => Parse.selectItem nested
  | .name => Parse.qualifiedName
  | .orderItem => Parse.orderItem nested
  | .expr => nested.expr 0

namespace Routine

/-- The parser that a routine stands for, where at most so many tokens are left. -/
def parser (depth : Nat) : (routine : Routine) → Parser routine.Result
  | .statement => Parse.statement
  | .select => Parse.select (Parse.nested .never depth)
  | .selectList => Parse.selectList (Parse.nested .never depth)
  | .nameList => Parse.nameList
  | .list item => Parse.commaList (item.parser (Parse.nested .never depth))
  | .selectItem => Parse.selectItem (Parse.nested .never depth)
  | .itemLabel => Parse.itemLabel?
  | .orderItem => Parse.orderItem (Parse.nested .never depth)
  | .expr minimum => Parse.expr .never (Parse.nested .never depth) minimum
  | .logicalChain start minimum left =>
      Parse.logicalChain (Parse.nested .never depth) start minimum depth left
  | .operand => Parse.operand .never (Parse.nested .never depth)
  | .booleanPrimary => Parse.booleanPrimary (Parse.nested .never depth)
  | .primaryChain start left => Parse.primaryChain (Parse.nested .never depth) start depth left
  | .predicate => Parse.predicate (Parse.nested .never depth)
  | .bitExpr minimum => Parse.bitExpr (Parse.nested .never depth) minimum
  | .bitChain start minimum left =>
      Parse.bitChain (Parse.nested .never depth) start minimum depth left
  | .simpleExpr => Parse.simpleExpr (Parse.nested .never depth)
  | .subquery => Parse.subquery (Parse.nested .never depth)
  | .caseExpr => Parse.caseExpr (Parse.nested .never depth)
  | .caseBranches => Parse.caseBranchesUpTo (Parse.nested .never depth) depth
  | .aggregation => Parse.aggregationCall (Parse.nested .never depth)
  | .arguments => Parse.argumentsUpTo (Parse.nested .never depth) depth
  | .cast => Parse.castCall (Parse.nested .never depth)
  | .substring => Parse.substringCall (Parse.nested .never depth)
  | .extract => Parse.extractCall (Parse.nested .never depth)
  | .trim => Parse.trimCall (Parse.nested .never depth)
  | .regular => Parse.regularCall (Parse.nested .never depth)
  | .dataType => Parse.dataType
  | .words => Parse.skipIdentifiers depth
  | .qualifiedName => Parse.qualifiedName
  | .identifier => Parse.identifier

/-- A CASE is parsed from its word on only; all other routines may be used at any place. -/
def StartsAt (routine : Routine) (cursor : Cursor) : Prop :=
  routine = .caseExpr → cursor.current.kind = .keyword .CASE

end Routine

namespace Script

variable {origin : Cursor} {depth : Nat}

theorem list_performs (ends : origin.Ends) (item : Item) :
    Performs origin (.list item) depth
      (Parse.commaList (item.parser (Parse.nested .never depth))) := by
  have inner := nested_performs ends depth
  have fails := Parse.nested_failsAtEnd .never depth
  cases item with
  | selectItem =>
      exact commaList_performs ends (Parse.selectItem_failsAtEnd fails) fun below less =>
        (selectItem_performs ends (inner.mono less) fails).call_lower (by decide) rfl
  | name =>
      exact commaList_performs ends Parse.qualifiedName_failsAtEnd fun _ _ =>
        (qualifiedName_performs ends).call_lower (by decide) rfl
  | orderItem =>
      have missing : Parse.FailsAtEnd .expression (Parse.orderItem (Parse.nested .never depth)) :=
        Parse.FailsAtEnd.after_offset fun _ => (Parse.orderTarget_failsAtEnd fails).bind
      exact commaList_performs ends missing fun below less =>
        (orderItem_performs ends (inner.mono less) fails).call_lower (by decide) rfl
  | expr => exact exprList_performs ends inner fails

/-- Every routine is run step by step as its script says. -/
theorem routine_performsAt (ends : origin.Ends) (routine : Routine) {cursor : Cursor}
    (valid : Cursor.Valid origin .never cursor) (few : cursor.position ≤ depth)
    (starts : routine.StartsAt cursor) :
    PerformsAt origin routine (routine.parser depth) cursor := by
  have inner := nested_performs ends depth
  have fails := Parse.nested_failsAtEnd .never depth
  have least := Nat.le_succ_of_le few
  cases routine with
  | statement => exact statement_performs ends cursor valid few
  | select => exact select_performs ends inner fails cursor valid least
  | selectList => exact selectList_performs ends inner fails cursor valid few
  | nameList => exact nameList_performs ends cursor valid few
  | list item => exact list_performs ends item cursor valid few
  | selectItem => exact selectItem_performs ends inner fails cursor valid few
  | itemLabel => exact itemLabel_performs ends cursor valid few
  | orderItem => exact orderItem_performs ends inner fails cursor valid few
  | expr minimum => exact expr_performs ends inner minimum cursor valid least
  | logicalChain start minimum left =>
      exact logicalChain_performs ends start minimum left inner (Nat.le_refl depth) cursor valid few
  | operand => exact operand_performs ends inner cursor valid least
  | booleanPrimary => exact booleanPrimary_performs ends inner fails cursor valid least
  | primaryChain start left =>
      exact primaryChain_performs ends start left inner (Nat.le_refl depth) cursor valid few
  | predicate => exact predicate_performs ends inner fails cursor valid least
  | bitExpr minimum => exact bitExpr_performs ends inner fails minimum cursor valid least
  | bitChain start minimum left =>
      exact bitChain_performs ends start minimum left inner (Nat.le_refl depth) cursor valid few
  | simpleExpr => exact simpleExpr_performs ends inner fails cursor valid least
  | subquery => exact subquery_performs ends inner cursor valid least
  | caseExpr => exact caseExpr_performsAt ends inner valid least (starts rfl)
  | caseBranches => exact caseBranchesUpTo_performs ends inner (Nat.le_refl depth) cursor valid few
  | aggregation => exact aggregationCall_performs ends inner fails cursor valid least
  | arguments => exact argumentsUpTo_performs ends inner fails (Nat.le_refl depth) cursor valid few
  | cast => exact castCall_performs ends inner cursor valid least
  | substring => exact substringCall_performs ends inner cursor valid least
  | extract => exact extractCall_performs ends inner cursor valid least
  | trim => exact trimCall_performs ends inner cursor valid least
  | regular => exact regularCall_performs ends inner fails cursor valid least
  | dataType => exact dataType_performs ends cursor valid few
  | words => exact words_performs ends (Nat.le_refl depth) cursor valid few
  | qualifiedName => exact qualifiedName_performs ends cursor valid few
  | identifier => exact identifier_performs ends cursor valid few

end Script

/-! ### Places -/

/-- Tokens of which the last one, and no other, is the end of the input. -/
structure EndsOnce (tokens : List Token) : Prop where
  last : (Cursor.ofTokens tokens).Ends
  nonempty : tokens ≠ []
  inner : ∀ token ∈ tokens.dropLast, token.kind ≠ .endOfInput

/-- The places that a parser may come to in its tokens: the first one, the one behind a token, and
those where a routine has ended or something was tried, whatever came of it. -/
inductive Reached (tokens : List Token) : Cursor → Prop
  | first : Reached tokens (.ofTokens tokens)
  | advanced {cursor : Cursor} : Reached tokens cursor → Reached tokens cursor.advance
  | ended {cursor : Cursor} {depth : Nat} (routine : Routine) :
      Reached tokens cursor → cursor.position ≤ depth → routine.StartsAt cursor →
      Reached tokens (routine.parser depth cursor).2
  | triedParenthesis {cursor : Cursor} {depth : Nat} :
      Reached tokens cursor → cursor.position ≤ depth →
      Reached tokens (Parse.parenthesised? .never (Parse.nested .never depth) cursor).2
  | triedColumn {cursor : Cursor} :
      Reached tokens cursor → Reached tokens (Parse.orderColumn? cursor).2

theorem endsOnce_tokenize (source : Text) : EndsOnce (tokenize source) := by
  obtain ⟨content, ending, whole, _, inner⟩ := tokenize_end source
  refine ⟨Cursor.ofTokens_ends source, Parse.tokenize_ne_nil source, ?_⟩
  rw [whole, List.dropLast_concat]
  exact inner

theorem Reached.valid {tokens : List Token} {cursor : Cursor} (last : (Cursor.ofTokens tokens).Ends)
    (reached : Reached tokens cursor) : Cursor.Valid (.ofTokens tokens) .never cursor := by
  induction reached with
  | first => exact Parse.ofTokens_valid tokens
  | advanced _ ih => exact ih.advance
  | ended routine _ few starts ih =>
      exact (Script.routine_performsAt last routine ih few starts).course.valid
  | @triedParenthesis cursor depth _ few ih =>
      have settled : Parse.Settled (.ofTokens tokens) .never depth (Parse.nested .never depth) :=
        fun fewer less further enough => Parse.nested_agree last fewer depth further less enough
      obtain ⟨_, _, _, run, _, valid, _⟩ :=
        Parse.parenthesised_agree settled (Nat.le_refl depth) cursor [] ih (Nat.le_succ_of_le few)
      rw [run]
      exact valid
  | @triedColumn cursor _ ih =>
      obtain ⟨_, _, _, run, _, valid, _⟩ :=
        Parse.orderColumn_agree cursor [] ih (Nat.le_refl cursor.position)
      rw [run]
      exact valid

/-! ### Ends -/

/-- A routine ends where it is used: there is one run of its steps, all of which descend, and it
comes to what the parser gives, at a place in the tokens that lies behind if it succeeds. -/
structure Routine.EndsAt (routine : Routine) (tokens : List Token) (depth : Nat) (cursor : Cursor) :
    Prop where
  run : ∃ events,
    (∀ others outcome later,
      Runs ⟨routine, cursor.position⟩ routine.body cursor others outcome later ↔
        others = events ∧ (outcome, later) = routine.parser depth cursor) ∧
    ∀ event ∈ events, event.Within (routine.parser depth cursor).2.position cursor.position
  place : (routine.parser depth cursor).2.indexIn tokens +
    (routine.parser depth cursor).2.position + 1 = tokens.length
  progresses : ∀ value, (routine.parser depth cursor).1 = .ok value →
    Frame.Progresses ⟨routine, cursor.position⟩ (routine.parser depth cursor).2.position

/-- A parenthesis that is tried in vain leaves the parser where it was, but for the note that this
parenthesis is given up. -/
theorem Parse.parenthesised_restores (nested : Parse.Nested) (cursor : Cursor) :
    ∃ found later, Parse.parenthesised? .never nested cursor = (.ok found, later) ∧
      (found = none →
        later = { cursor with rejected := later.rejected } ∧ cursor.position ∈ later.rejected) := by
  by_cases skipped : cursor.position ∈ cursor.rejected
  · exact ⟨none, cursor, Parse.parenthesised_skipped skipped, fun _ => ⟨rfl, skipped⟩⟩
  · rw [Parse.parenthesised_tried fun _ => skipped]
    rcases Parse.enclosed? nested cursor with ⟨error | found | node, later⟩
    · exact ⟨none, cursor.giveUp later, rfl, fun _ => ⟨rfl, List.mem_cons_self⟩⟩
    · exact ⟨none, cursor.giveUp later, rfl, fun _ => ⟨rfl, List.mem_cons_self⟩⟩
    · exact ⟨some node, later, rfl, by simp⟩

/-- Wherever the parser may have come to in tokens that end once, every routine ends, a statement
among them, and a parenthesis that is tried in vain restores the place. -/
theorem routine_ends (tokens : List Token) (once : EndsOnce tokens) (cursor : Cursor)
    (reached : Reached tokens cursor) (depth : Nat) (deep : cursor.position ≤ depth) :
    (∀ routine : Routine, routine.StartsAt cursor → routine.EndsAt tokens depth cursor) ∧
    ∃ found later,
      Parse.parenthesised? .never (Parse.nested .never depth) cursor = (.ok found, later) ∧
      (found = none →
        later = { cursor with rejected := later.rejected } ∧
          cursor.position ∈ later.rejected) := by
  refine ⟨fun routine starts => ?_, Parse.parenthesised_restores _ cursor⟩
  obtain ⟨⟨⟨events, runs, within⟩, valid, _, _⟩, progresses⟩ :=
    Script.routine_performsAt once.last routine (reached.valid once.last) deep starts
  refine ⟨⟨events, fun others outcome later => ⟨fun run => ?_, ?_⟩, within⟩,
    (valid.follows.drop once.nonempty).2, progresses⟩
  · obtain ⟨same, rfl, rfl⟩ := runs.unique run
    exact ⟨same, rfl⟩
  · rintro ⟨rfl, same⟩
    obtain ⟨rfl, rfl⟩ := Prod.mk.inj same
    exact runs

/-- The second statement is asked for at the second SELECT, where two parentheses further on are
given up. -/
theorem routine_ends_resumed :
    (Parse.afterStatements "SELECT a SELECT ((b) + 1".toList 1).position = 7 ∧
      Routine.EndsAt .statement (tokenize "SELECT a SELECT ((b) + 1".toList) 7
        (Parse.afterStatements "SELECT a SELECT ((b) + 1".toList 1) := by
  have position : (Parse.afterStatements "SELECT a SELECT ((b) + 1".toList 1).position = 7 := by
    decide +kernel
  have reached : Reached (tokenize "SELECT a SELECT ((b) + 1".toList)
      (Parse.afterStatements "SELECT a SELECT ((b) + 1".toList 1) :=
    .ended .statement .first (Nat.le_refl _) (by rintro ⟨⟩)
  exact ⟨position, (routine_ends _ (endsOnce_tokenize _) _ reached 7 (Nat.le_of_eq position)).1
    .statement (by rintro ⟨⟩)⟩

end AnnotatedSql.Grammar
