/-
This file shows that connectives are parsed step by step as their scripts say, also where a
parenthesis is tried and given up.
-/

import AnnotatedSql.Proofs.Grammar.Script.Reach
import AnnotatedSql.Proofs.Grammar.Script.Steps.Expression

namespace AnnotatedSql.Grammar.Script

open Parse (Nested)

variable {origin : Cursor} {frame : Frame} {bound below depth : Nat} {nested : Nested}

section
variable (inner : nested.Performs origin below) (behind : below < frame.position)
include inner behind

theorem negated_realises :
    Realises origin frame (below + 1) below negated (Parse.negated nested) := by
  refine realises_offset.bind fun start => realises_terminal.bind fun operator => ?_
  refine ((inner.expr _).call_behind behind).bind fun operand => ?_
  exact realises_closing start _

theorem enclosed_realises :
    Realises origin frame (below + 1) below enclosed? (Parse.enclosed? nested) := by
  refine realises_offset.bind fun start => realises_advance.bind fun _ => ?_
  refine ((inner.expr 0).call_behind behind).bind fun node => ?_
  refine (realises_atKind _).bind fun closed =>
    realises_ite (fun _ => ?_) fun _ => realises_pure none
  refine realises_advance.here.bind fun _ => (realises_kindAhead 0).bind fun following => ?_
  refine realises_ite (fun _ => realises_pure none) fun _ => ?_
  exact realises_closing start _

end

section
variable (ends : origin.Ends)
include ends

theorem primaryExpr_realises (inner : nested.Performs origin below) (fails : nested.FailsAtEnd) :
    Realises origin ⟨.operand, below + 1⟩ (below + 1) below primaryExpr
      (Parse.primaryExpr nested) :=
  ((booleanPrimary_performs ends inner fails).call_lower (by decide) rfl).bind
    fun primary => realises_pure (Expr.primary primary)

/-! ### Parentheses that are tried -/

/-- What was given up does not matter to a nested expression. -/
theorem expr_again {cursor : Cursor} {noted : List Nat} (minimum : Nat)
    (valid : Cursor.Valid origin .never cursor)
    (again : Cursor.Valid origin .never { cursor with rejected := noted })
    (few : cursor.position ≤ depth) :
    ∃ left, (Parse.nested .never depth).expr minimum { cursor with rejected := noted } =
      (((Parse.nested .never depth).expr minimum cursor).1,
        { ((Parse.nested .never depth).expr minimum cursor).2 with rejected := left }) := by
  have settled : Parse.Nested.Agree origin .never depth (Parse.nested .never depth)
      (Parse.nested .always depth) :=
    Parse.nested_agree ends depth depth depth (Nat.le_refl _) (Nat.le_refl _)
  have agree := settled.expr minimum
  obtain ⟨outcome, later, _, run, plain, _⟩ := agree cursor [] valid few
  obtain ⟨other, place, _, otherRun, otherPlain, _⟩ := agree _ [] again few
  obtain ⟨rfl, same⟩ := Prod.mk.inj (otherPlain.symm.trans plain)
  rw [run, otherRun]
  refine ⟨place.rejected, congrArg (Prod.mk other) ?_⟩
  obtain ⟨_, _, _, _⟩ := place
  obtain ⟨_, _, _, _⟩ := later
  simp_all

omit ends in
/-- What is tried fails where its expression does. -/
theorem enclosed_error {cursor place : Cursor} {error : SyntaxError}
    (run : nested.expr 0 cursor.advance = (.error error, place)) :
    Parse.enclosed? nested cursor = (.error error, place) := by
  rw [Parse.enclosed?, Parse.bind_look Parse.offset_run]
  change (nested.expr 0 >>= _) cursor.advance = _
  exact Parse.bind_error run

omit ends in
/-- An expression that no parenthesis follows is not enclosed. -/
theorem enclosed_unclosed {cursor place : Cursor} {node : Expr}
    (run : nested.expr 0 cursor.advance = (.ok node, place))
    (unclosed : place.current.kind ≠ .symbol .rightParen) :
    Parse.enclosed? nested cursor = (.ok none, place) := by
  rw [Parse.enclosed?, Parse.bind_look Parse.offset_run]
  change (nested.expr 0 >>= _) cursor.advance = _
  rw [Parse.bind_run, run]
  change (if (place.current.kind == .symbol .rightParen) = true then _ else _ : Parser _) place = _
  rw [if_neg (by simpa using unclosed)]
  rfl

omit ends in
/-- An enclosed expression that goes on behind its parenthesis is no operand. -/
theorem enclosed_continued {cursor place : Cursor} {node : Expr}
    (run : nested.expr 0 cursor.advance = (.ok node, place))
    (closes : place.current.kind = .symbol .rightParen)
    (continues : Precedence.continuesOperand place.advance.current.kind = true) :
    Parse.enclosed? nested cursor = (.ok none, place.advance) := by
  rw [Parse.enclosed?, Parse.bind_look Parse.offset_run]
  change (nested.expr 0 >>= _) cursor.advance = _
  rw [Parse.bind_run, run]
  change (if (place.current.kind == .symbol .rightParen) = true then _ else _ : Parser _) place = _
  rw [closes]
  change (if Precedence.continuesOperand place.advance.current.kind = true then _ else _ :
    Parser _) place.advance = _
  rw [continues]
  rfl

/-- A trial that fails comes no further than the primary that is parsed instead. -/
theorem trial_reaches {cursor final : Cursor} {noted : List Nat} {events : List Event}
    {outcome : Except SyntaxError Expr} {least : Nat}
    (inner : (Parse.nested .never depth).Performs origin depth)
    (valid : Cursor.Valid origin .never cursor)
    (again : Cursor.Valid origin .never { cursor with rejected := noted })
    (few : cursor.position ≤ depth + 1) (opens : cursor.current.kind = .symbol .leftParen)
    (following : (cursor.ahead 1).kind ≠ .keyword .SELECT)
    (untaken : ∀ found, (Parse.enclosed? (Parse.nested .never depth) cursor).1 ≠ .ok (some found))
    (run : Runs frame primaryExpr { cursor with rejected := noted } events outcome final)
    (confined : Confined least events final) :
    least ≤ (Parse.enclosed? (Parse.nested .never depth) cursor).2.position := by
  obtain ⟨_, _, middle, first, reached, closing⟩ :=
    parenthesis_reaches run confined opens following
  have moved := cursor.advance_position
  have fewer : cursor.advance.position ≤ depth := by omega
  rw [Parse.advance_rejected] at first
  have againAdvance := again.advance
  rw [Parse.advance_rejected] at againAdvance
  -- Behind the parenthesis both runs parse the same expression.
  obtain ⟨left, same⟩ := expr_again ends 0 valid.advance againAdvance fewer
  obtain ⟨⟨⟨_, runs, _⟩, _⟩, _⟩ := inner.expr 0 _ againAdvance fewer
  obtain ⟨_, rfl, rfl⟩ := first.unique runs
  rw [same] at reached closing
  rcases found : (Parse.nested .never depth).expr 0 cursor.advance with ⟨error | node, place⟩ <;>
    rw [found] at reached closing
  · rw [enclosed_error found]
    exact reached
  by_cases closes : place.current.kind = .symbol .rightParen
  · have further : least ≤ place.advance.position := by
      have further := closing node rfl closes
      rw [Cursor.advance_position] at further ⊢
      exact further
    cases stops : Precedence.continuesOperand place.advance.current.kind with
    | false =>
        rw [Parse.enclosed_run found closes stops] at untaken
        exact absurd rfl (untaken _)
    | true =>
        rw [enclosed_continued found closes stops]
        exact further
  · rw [enclosed_unclosed found closes]
    exact reached

omit ends in
theorem parenthesisedOrPrimary_skipped {cursor : Cursor}
    (rejected : cursor.position ∈ cursor.rejected) :
    Parse.parenthesisedOrPrimary .never nested cursor = Parse.primaryExpr nested cursor := by
  rw [Parse.parenthesisedOrPrimary, Parse.bind_run, Parse.parenthesised_skipped rejected]

omit ends in
theorem parenthesisedOrPrimary_tried {cursor : Cursor} (fresh : cursor.position ∉ cursor.rejected) :
    Parse.parenthesisedOrPrimary .never nested cursor =
      match Parse.afterTrial cursor (Parse.enclosed? nested cursor) with
      | (.ok (some node), later) => (.ok node, later)
      | (.ok none, place) => Parse.primaryExpr nested place
      | (.error error, later) => (.error error, later) := by
  rw [Parse.parenthesisedOrPrimary, Parse.bind_run, Parse.parenthesised_tried fun _ => fresh]
  rcases Parse.enclosed? nested cursor with ⟨error | found | found, later⟩ <;> rfl

omit ends in
theorem afterTrial_untaken {cursor later : Cursor} {result : Except SyntaxError (Option Expr)}
    (untaken : ∀ node, result ≠ .ok (some node)) :
    Parse.afterTrial cursor (result, later) = (.ok none, cursor.giveUp later) := by
  rcases result with error | found | node
  · rfl
  · rfl
  · exact absurd rfl (untaken node)

/-- A parenthesis that starts no subquery is tried at most once, and is parsed as a primary if it is
no operand. -/
theorem parenthesisedOrPrimary_course {cursor : Cursor}
    (inner : (Parse.nested .never depth).Performs origin depth) (least : below ≤ depth)
    (valid : Cursor.Valid origin .never cursor) (few : cursor.position ≤ below + 1)
    (opens : cursor.current.kind = .symbol .leftParen)
    (following : (cursor.ahead 1).kind ≠ .keyword .SELECT) :
    Course origin ⟨.operand, below + 1⟩ below parenthesisedOrPrimary cursor
      (Parse.parenthesisedOrPrimary .never (Parse.nested .never depth) cursor) := by
  have primary := primaryExpr_realises ends (inner.mono least)
    (Parse.nested_failsAtEnd .never depth)
  refine course_look ?_
  change Course _ _ _ (Script.bind (if cursor.isRejected = true then give none else _) _) _ _
  by_cases skipped : cursor.position ∈ cursor.rejected
  · rw [show cursor.isRejected = true from List.contains_iff_mem.mpr skipped,
      parenthesisedOrPrimary_skipped skipped]
    exact primary cursor valid few
  have fresh : cursor.isRejected = false := by simpa [Cursor.isRejected] using skipped
  rw [fresh, parenthesisedOrPrimary_tried skipped]
  have behind : below < (⟨.operand, below + 1⟩ : Frame).position := Nat.lt_succ_self below
  have trial := enclosed_realises (inner.mono least) behind cursor valid few
  rcases tried : Parse.enclosed? (Parse.nested .never depth) cursor with ⟨result, later⟩
  rw [tried] at trial
  by_cases taken : ∃ node, result = .ok (some node)
  · obtain ⟨node, rfl⟩ := taken
    exact course_attempt Trial.parenthesis trial rfl
      (realises_pure node later trial.valid (trial.leaves _ rfl)) trial.onward (Nat.le_refl _)
  · have untaken : ∀ node, result ≠ .ok (some node) := fun node same => taken ⟨node, same⟩
    have settled : Parse.afterTrial cursor (result, later) = (.ok none, cursor.giveUp later) :=
      afterTrial_untaken untaken
    have again : Cursor.Valid origin .never (cursor.giveUp later) := by
      have deep : Parse.Settled origin .never depth (Parse.nested .never depth) :=
        fun fewer less further enough => Parse.nested_agree ends fewer depth further less enough
      obtain ⟨_, _, _, run, _, validAgain, _⟩ :=
        Parse.parenthesised_agree deep (Nat.le_refl depth) cursor [] valid (by omega)
      rw [Parse.parenthesised_tried fun _ => skipped, tried, settled] at run
      obtain ⟨_, rfl⟩ := Prod.mk.inj run
      exact validAgain
    rw [settled]
    have next := primary _ again few
    refine course_attempt Trial.parenthesis trial settled next (Nat.le_refl _) ?_
    obtain ⟨events, runs, within⟩ := next.runs
    have reached := trial_reaches ends inner valid again (by omega) opens following
      (by rw [tried]; exact untaken) runs
      ⟨fun event member => (within event member).least, Nat.le_refl _⟩
    rw [tried] at reached
    exact reached

/-! ### Connectives -/

section
variable (inner : (Parse.nested .never depth).Performs origin depth)
include inner

theorem operand_performs :
    Performs origin .operand (depth + 1) (Parse.operand .never (Parse.nested .never depth)) := by
  have fails := Parse.nested_failsAtEnd .never depth
  have missing : Parse.FailsAtEnd .expression
      (Parse.operand .never (Parse.nested .never depth)) :=
    Parse.FailsAtEnd.after_kindAhead fun cursor => Parse.primaryExpr_atEnd _
  refine performs_of_steps ends stops_operand missing fun below few => ?_
  have deeper := inner.mono (Nat.le_of_lt_succ few)
  have primary := primaryExpr_realises ends deeper fails
  have behind : below < (⟨.operand, below + 1⟩ : Frame).position := Nat.lt_succ_self below
  have negation := negated_realises deeper behind
  refine fun cursor valid least => course_kindAhead_bind 0 ?_
  rcases found : (cursor.ahead (0 : Fin 3)).kind with _ | _ | _ | _ | _ | _ | word | sign | _ | _
  case keyword =>
    cases word with
    | NOT => exact negation cursor valid least
    | _ => exact primary cursor valid least
  case symbol =>
    cases sign with
    | bang => exact negation cursor valid least
    | leftParen =>
        refine course_kindAhead_bind 1 ?_
        by_cases following : (cursor.ahead (1 : Fin 3)).kind = .keyword .SELECT
        · rw [if_pos following, if_pos following]
          exact primary cursor valid least
        · rw [if_neg following, if_neg following]
          exact parenthesisedOrPrimary_course ends inner (Nat.le_of_lt_succ few) valid least found
            following
    | _ => exact primary cursor valid least
  all_goals exact primary cursor valid least

omit inner in
theorem logicalChain_performs (start minimum : Nat) (left : Expr) {rounds : Nat}
    (inner : nested.Performs origin bound) (few : bound ≤ rounds) :
    Performs origin (.logicalChain start minimum left) bound
      (Parse.logicalChain nested start minimum rounds left) := by
  refine performs_of_rounds (.logicalChain start minimum) (Parse.logicalChain nested start minimum)
    ends (fun _ => rfl) (fun rounds left _ _ _ _ => ?_) (fun rounds below least others left => ?_)
    rounds bound few (Nat.le_refl bound) left
  · cases rounds <;> exact ⟨left, rfl, .look .give⟩
  have deeper := inner.mono (Nat.le_of_lt least)
  have behind : below < (⟨.logicalChain start minimum left, below + 1⟩ : Frame).position :=
    Nat.lt_succ_self below
  refine (realises_kindAhead 0).bind fun kind => ?_
  rcases Precedence.logical? kind with _ | level
  · exact realises_pure left
  · refine realises_ite (fun _ => realises_pure left) fun _ => ?_
    refine realises_terminal.bind fun operator => ?_
    refine ((deeper.expr _).call_behind behind).bind fun right => ?_
    refine (realises_spanFrom start).bind fun span => ?_
    exact realises_ite (fun _ => ((others _).call_behind behind).wide)
      fun _ => ((others _).call_behind behind).wide

theorem expr_performs (minimum : Nat) :
    Performs origin (.expr minimum) (depth + 1)
      (Parse.expr .never (Parse.nested .never depth) minimum) := by
  refine performs_of_steps ends (stops_expr minimum)
    (fun cursor => Parse.expr_atEnd .never _ minimum) fun below few => ?_
  have deeper := inner.mono (Nat.le_of_lt_succ few)
  have first := (operand_performs ends inner).mono few
  refine realises_offset.bind fun start => ?_
  refine (first.call_lower (by simp [Routine.level]) rfl).bind fun first => ?_
  refine realises_remaining_bind fun rounds least => ?_
  have chain := logicalChain_performs ends start minimum first (deeper.mono least)
    (Nat.le_refl rounds)
  exact (chain.call_behind (Nat.lt_succ_of_le least)).mono (Nat.le_refl rounds) least

end

end

end AnnotatedSql.Grammar.Script
