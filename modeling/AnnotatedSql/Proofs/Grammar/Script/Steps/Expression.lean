/-
This file shows that expressions are parsed step by step as their scripts say.
-/

import AnnotatedSql.Proofs.Grammar.Script.Steps.Call

namespace AnnotatedSql.Grammar.Script

open Parse (Nested)

variable {origin : Cursor} {frame : Frame} {bound below : Nat} {nested : Nested}

/-! ### Simple expressions -/

theorem literal_realises :
    Realises origin frame (below + 1) below literal Parse.literal :=
  (realises_kindAhead 0).bind fun _ => realises_terminal.bind fun _ => realises_pure _

theorem negativeNumber_realises :
    Realises origin frame (below + 1) below negativeNumber Parse.negativeNumber := by
  refine realises_offset.bind fun start => realises_advance.bind fun _ => ?_
  refine realises_advance.here.bind fun _ => ?_
  exact realises_closing start _

theorem marker_realises : Realises origin frame (below + 1) below marker Parse.marker :=
  realises_terminal.bind fun span => realises_pure (SimpleExpr.marker span)

section
variable (inner : nested.Performs origin below) (behind : below < frame.position)
include inner behind

theorem unary_realises :
    Realises origin frame (below + 1) below unary (Parse.unary nested) := by
  refine realises_offset.bind fun start => realises_terminal.bind fun operator => ?_
  refine (inner.simpleExpr.call_behind behind).bind fun operand => ?_
  exact realises_closing start _

theorem minus_realises :
    Realises origin frame (below + 1) below minus (Parse.minus nested) := by
  refine (realises_kindAhead 1).bind fun following => ?_
  exact realises_ite (fun _ => negativeNumber_realises) fun _ => unary_realises inner behind

theorem caseOperand_realises :
    Realises origin frame below below caseOperand? (Parse.caseOperand? nested) := by
  refine (realises_atKind _).bind fun direct =>
    realises_ite (fun _ => realises_pure none) fun _ => ?_
  exact (inner.simpleExpr.call_behind behind).bind fun operand => realises_pure (some operand)

theorem otherwise_realises :
    Realises origin frame below below otherwise? (Parse.otherwise? nested) :=
  realises_led ((inner.expr 0).call_behind behind)

theorem caseBranch_realises :
    Realises origin frame (below + 1) below caseBranch (Parse.caseBranch nested) := by
  refine realises_offset.bind fun start => realises_advance.bind fun _ => ?_
  refine ((inner.expr 0).call_behind behind).bind fun condition => ?_
  refine (realises_expectKeyword _).here.bind fun word => ?_
  refine ((inner.expr 0).call_behind behind).bind fun result => ?_
  exact realises_closing start _

end

section
variable (ends : origin.Ends)
include ends

theorem caseBranchesUpTo_performs {rounds : Nat} (inner : nested.Performs origin bound)
    (few : bound ≤ rounds) :
    Performs origin .caseBranches bound (Parse.caseBranchesUpTo nested rounds) := by
  refine performs_of_rounds (fun _ : Unit => .caseBranches)
    (fun rounds _ => Parse.caseBranchesUpTo nested rounds) ends (fun _ => rfl)
    (fun rounds _ _ _ _ _ => ?_) (fun rounds below least others _ => ?_) rounds bound few
    (Nat.le_refl bound) ()
  · cases rounds <;> exact ⟨[], rfl, .look .give⟩
  have deeper := inner.mono (Nat.le_of_lt least)
  refine (realises_atKind _).bind fun found => realises_ite (fun _ => ?_) fun _ => realises_pure _
  refine (caseBranch_realises deeper (Nat.lt_succ_self below)).bind fun first => ?_
  refine ((others ()).call_behind (Nat.lt_succ_self below)).bind fun others => ?_
  exact (realises_pure _).wide

theorem caseExpr_realises (inner : nested.Performs origin below) :
    Realises origin ⟨.caseExpr, below + 1⟩ (below + 1) below caseExpr (Parse.caseExpr nested) := by
  have behind : below < (⟨.caseExpr, below + 1⟩ : Frame).position := Nat.lt_succ_self below
  refine realises_offset.bind fun start => realises_advance.bind fun _ => ?_
  refine (caseOperand_realises inner behind).bind fun operand => ?_
  refine realises_remaining_bind fun rounds few => ?_
  have branches := caseBranchesUpTo_performs ends (inner.mono few) (Nat.le_refl rounds)
  refine Realises.mono ?_ (Nat.le_refl rounds) few
  refine (branches.call_behind (Nat.lt_of_le_of_lt few behind)).bind fun branches => ?_
  refine realises_ite (fun _ => realises_fail _) fun _ => ?_
  refine (otherwise_realises (inner.mono few) (Nat.lt_of_le_of_lt few behind)).bind
    fun otherwise => ?_
  refine (realises_expectKeyword _).here.bind fun word => ?_
  exact realises_closing start _

section
variable (inner : nested.Performs origin below) (fails : nested.FailsAtEnd)
include inner

theorem existence_realises :
    Realises origin ⟨.simpleExpr, below + 1⟩ (below + 1) below existence
      (Parse.existence nested) := by
  have query := (subquery_performs ends inner).mono (Nat.le_succ below)
  refine realises_offset.bind fun start => realises_terminal.bind fun word => ?_
  refine (query.call_behind (Nat.lt_succ_self below)).bind fun query => ?_
  exact realises_closing start _

theorem specialCall_realises (word : Keyword) :
    Realises origin ⟨.simpleExpr, below + 1⟩ (below + 1) below (specialCall word)
      (Parse.specialCall nested word) := by
  refine (realises_kindAhead 1).bind fun following =>
    realises_ite (fun _ => ?_) fun _ => realises_fail _
  have trims : Realises origin ⟨.simpleExpr, below + 1⟩ (below + 1) below
      (Parse.special <$> call .trim) (Parse.special <$> Parse.trimCall nested) :=
    ((trimCall_performs ends inner).call_lower (by decide) rfl).bind fun _ => realises_pure _
  cases word with
  | CAST =>
      exact ((castCall_performs ends inner).call_lower (by decide) rfl).bind
        fun _ => realises_pure _
  | SUBSTRING =>
      exact ((substringCall_performs ends inner).call_lower (by decide) rfl).bind
        fun _ => realises_pure _
  | EXTRACT =>
      exact ((extractCall_performs ends inner).call_lower (by decide) rfl).bind
        fun _ => realises_pure _
  | _ => exact trims

include fails

theorem parenthesis_realises :
    Realises origin ⟨.simpleExpr, below + 1⟩ (below + 1) below parenthesis
      (Parse.parenthesis nested) := by
  refine (realises_kindAhead 1).bind fun following => realises_ite (fun _ => ?_) fun _ => ?_
  · exact ((subquery_performs ends inner).call_lower (by decide) rfl).bind fun _ => realises_pure _
  · have items := exprList_performs ends inner fails
    refine realises_offset.bind fun start => realises_advance.bind fun _ => ?_
    refine (items.call_behind (Nat.lt_succ_self below)).bind fun items => ?_
    refine (realises_expectKind _).here.bind fun closing => ?_
    exact realises_closing start _

theorem nameOrCall_realises :
    Realises origin ⟨.simpleExpr, below + 1⟩ (below + 1) below nameOrCall
      (Parse.nameOrCall nested) := by
  refine realises_current.bind fun token => (realises_kindAhead 1).bind fun following => ?_
  refine realises_ite (fun _ => ?_) fun _ => ?_
  · refine realises_ite (fun _ => ?_) fun _ => ?_
    · exact ((aggregationCall_performs ends inner fails).call_lower (by decide) rfl).bind
        fun _ => realises_pure _
    · exact ((regularCall_performs ends inner fails).call_lower (by decide) rfl).bind
        fun _ => realises_pure _
  · exact ((qualifiedName_performs ends).call_lower (by decide) rfl).bind fun _ => realises_pure _

end

/-- A CASE is parsed where its word is the current token, so that one is left. -/
theorem caseExpr_performsAt {cursor : Cursor} (inner : nested.Performs origin bound)
    (valid : Cursor.Valid origin .never cursor) (few : cursor.position ≤ bound + 1)
    (found : cursor.current.kind = .keyword .CASE) :
    PerformsAt origin .caseExpr (Parse.caseExpr nested) cursor := by
  rcases left : cursor.position with _ | below
  · obtain ⟨_, reads⟩ := valid.follows
    have atEnd : Parse.AtEnd cursor := ⟨reads.ends ends, List.eq_nil_of_length_eq_zero left⟩
    exact absurd (found.symm.trans (atEnd.ahead 0)) (by simp)
  · have deeper := inner.mono (show below ≤ bound by omega)
    exact (caseExpr_realises ends deeper).performsAt valid left

theorem simpleExpr_performs (inner : nested.Performs origin bound) (fails : nested.FailsAtEnd) :
    Performs origin .simpleExpr (bound + 1) (Parse.simpleExpr nested) := by
  refine performs_of_steps ends stops_simpleExpr
    (fun cursor => Parse.simpleExpr_atEnd nested) fun below few => ?_
  have deeper := inner.mono (Nat.le_of_lt_succ few)
  have behind : below < (⟨.simpleExpr, below + 1⟩ : Frame).position := Nat.lt_succ_self below
  have name := nameOrCall_realises ends deeper fails
  refine fun cursor valid least => course_kindAhead_bind 0 ?_
  have failing : Realises origin ⟨.simpleExpr, below + 1⟩ (below + 1) below
      (fail .expression : Script SimpleExpr) (Parse.fail .expression) := realises_fail _
  rcases found : (cursor.ahead (0 : Fin 3)).kind with _ | _ | _ | _ | _ | _ | word | sign | _ | _
  case keyword =>
    cases word with
    | CASE =>
        have performs := caseExpr_performsAt ends deeper valid least found
        exact performs.call_lower (by decide) rfl least
    | CAST | SUBSTRING | EXTRACT | TRIM =>
        exact specialCall_realises ends deeper _ cursor valid least
    | EXISTS => exact existence_realises ends deeper cursor valid least
    | TRUE | FALSE | NULL => exact literal_realises cursor valid least
    | NOT => exact unary_realises deeper behind cursor valid least
    | _ => exact realises_ite (fun _ => name) (fun _ => failing) cursor valid least
  case symbol =>
    cases sign with
    | question => exact marker_realises cursor valid least
    | minus => exact minus_realises deeper behind cursor valid least
    | leftParen => exact parenthesis_realises ends deeper fails cursor valid least
    | plus | tilde | bang => exact unary_realises deeper behind cursor valid least
    | _ => exact failing cursor valid least
  case identifier | quotedIdentifier => exact name cursor valid least
  case number | string | hexadecimal | bitValue => exact literal_realises cursor valid least
  case endOfInput | error => exact failing cursor valid least

/-! ### Bit expressions and predicates -/

/-- A chain of operators runs its rounds, of which at most as many are left as there are tokens. -/
theorem bitChain_performs (start minimum : Nat) (left : BitExpr) {rounds : Nat}
    (inner : nested.Performs origin bound) (few : bound ≤ rounds) :
    Performs origin (.bitChain start minimum left) bound
      (Parse.bitChain nested start minimum rounds left) := by
  refine performs_of_rounds (.bitChain start minimum) (Parse.bitChain nested start minimum) ends
    (fun _ => rfl) (fun rounds left _ _ _ _ => ?_) (fun rounds below least others left => ?_) rounds
    bound few (Nat.le_refl bound) left
  · cases rounds <;> exact ⟨left, rfl, .look .give⟩
  have deeper := inner.mono (Nat.le_of_lt least)
  have behind : below < (⟨.bitChain start minimum left, below + 1⟩ : Frame).position :=
    Nat.lt_succ_self below
  refine (realises_kindAhead 0).bind fun kind => ?_
  rcases Precedence.bit? kind with _ | level
  · exact realises_pure left
  · refine realises_ite (fun _ => realises_pure left) fun _ => ?_
    refine realises_terminal.bind fun operator => ?_
    refine ((deeper.bitExpr _).call_behind behind).bind fun right => ?_
    refine (realises_spanFrom start).bind fun span => ?_
    exact ((others _).call_behind behind).wide

theorem bitExpr_performs (inner : nested.Performs origin bound) (fails : nested.FailsAtEnd)
    (minimum : Nat) :
    Performs origin (.bitExpr minimum) (bound + 1) (Parse.bitExpr nested minimum) := by
  refine performs_of_steps ends (stops_bitExpr minimum)
    (fun cursor => Parse.bitExpr_atEnd nested minimum) fun below few => ?_
  have deeper := inner.mono (Nat.le_of_lt_succ few)
  have simple := simpleExpr_performs ends deeper fails
  refine realises_offset.bind fun start => ?_
  refine (simple.call_lower (by simp [Routine.level]) rfl).bind fun first => ?_
  refine realises_remaining_bind fun rounds least => ?_
  have chain := bitChain_performs ends start minimum (.simple first) (deeper.mono least)
    (Nat.le_refl rounds)
  exact (chain.call_behind (Nat.lt_succ_of_le least)).mono (Nat.le_refl rounds) least

omit ends in
theorem predicateNegation_realises :
    Realises origin frame below below predicateNegation? Parse.predicateNegation? := by
  have taken (negated : Bool) : Realises origin frame below below
      (if negated then do let span ← terminal; return some span else return none)
      (if negated then do let span ← Parse.terminal; return some span else return none) :=
    realises_ite (fun _ => realises_terminal.here.bind fun _ => realises_pure _)
      fun _ => realises_pure none
  refine (realises_atKind _).bind fun negated => (realises_kindAhead 1).bind fun following => ?_
  rcases following with _ | _ | _ | _ | _ | _ | word | sign | _ | _
  case keyword => cases word <;> first | exact taken negated | exact realises_pure none
  all_goals exact realises_pure none

section
variable {start : Nat} {operand : BitExpr} {negation : Option Span}
  (inner : nested.Performs origin below) (behind : below < frame.position)
include inner behind

theorem membership_realises (fails : nested.FailsAtEnd) :
    Realises origin frame below below (membership start operand negation)
      (Parse.membership nested start operand negation) := by
  have query := (subquery_performs ends inner).mono (Nat.le_succ below)
  have items := exprList_performs ends inner fails
  refine realises_advance.here.bind fun _ => (realises_atKind _).bind fun opened => ?_
  refine (realises_kindAhead 1).bind fun following => realises_ite (fun _ => ?_) fun _ => ?_
  · refine (query.call_behind behind).bind fun query => ?_
    exact realises_closing start _
  · refine (realises_expectKind _).here.bind fun leftParen => ?_
    refine (items.call_behind behind).bind fun items => ?_
    refine (realises_expectKind _).here.bind fun rightParen => ?_
    exact realises_closing start _

omit ends in
theorem range_realises :
    Realises origin frame below below (range start operand negation)
      (Parse.range nested start operand negation) := by
  refine realises_advance.here.bind fun _ => ?_
  refine ((inner.bitExpr 0).call_behind behind).bind fun lower => ?_
  refine (realises_expectKeyword _).here.bind fun word => ?_
  refine (inner.predicate.call_behind behind).bind fun upper => ?_
  exact realises_closing start _

omit ends in
theorem escape_realises : Realises origin frame below below escape? (Parse.escape? nested) :=
  realises_led (inner.simpleExpr.call_behind behind)

omit ends in
theorem pattern_realises :
    Realises origin frame below below (pattern start operand negation)
      (Parse.pattern nested start operand negation) := by
  refine realises_advance.here.bind fun _ => ?_
  refine (inner.simpleExpr.call_behind behind).bind fun text => ?_
  refine (escape_realises inner behind).bind fun escape => ?_
  exact realises_closing start _

end

theorem predicate_performs (inner : nested.Performs origin bound) (fails : nested.FailsAtEnd) :
    Performs origin .predicate (bound + 1) (Parse.predicate nested) := by
  refine performs_of_steps ends stops_predicate
    (fun cursor => Parse.predicate_atEnd nested) fun below few => ?_
  have deeper := inner.mono (Nat.le_of_lt_succ few)
  have behind : below < (⟨.predicate, below + 1⟩ : Frame).position := Nat.lt_succ_self below
  refine realises_offset.bind fun start => ?_
  refine ((bitExpr_performs ends deeper fails 0).call_lower (by decide) rfl).bind fun operand => ?_
  refine predicateNegation_realises.bind fun negation => (realises_kindAhead 0).bind fun kind => ?_
  rcases kind with _ | _ | _ | _ | _ | _ | word | sign | _ | _
  case keyword =>
    cases word with
    | IN => exact membership_realises ends deeper behind fails
    | BETWEEN => exact range_realises deeper behind
    | LIKE => exact pattern_realises deeper behind
    | _ => exact realises_pure _
  all_goals exact realises_pure _

/-! ### Comparisons -/

omit ends in
theorem truthTest_realises (start : Nat) (operand : BooleanPrimary) :
    Realises origin frame (below + 1) below (truthTest start operand)
      (Parse.truthTest start operand) := by
  refine realises_advance.bind fun _ => (realises_keyword _).bind fun negation => ?_
  have tests : Realises origin frame below below
      (do let value ← terminal; let span ← spanFrom start
          return BooleanPrimary.isTest span operand negation value)
      (do let value ← Parse.terminal; let span ← Parse.spanFrom start
          return BooleanPrimary.isTest span operand negation value) :=
    realises_terminal.here.bind fun value =>
      (realises_spanFrom start).bind fun span => realises_pure _
  refine (realises_kindAhead 0).bind fun kind => ?_
  rcases kind with _ | _ | _ | _ | _ | _ | word | sign | _ | _
  case keyword => cases word <;> first | exact tests | exact realises_fail _
  all_goals exact realises_fail _

theorem comparison_realises (start : Nat) (left : BooleanPrimary)
    (inner : nested.Performs origin below) (behind : below < frame.position) :
    Realises origin frame (below + 1) below (comparison start left)
      (Parse.comparison nested start left) := by
  have query := (subquery_performs ends inner).mono (Nat.le_succ below)
  refine realises_terminal.bind fun operator => (realises_kindAhead 0).bind fun kind => ?_
  have quantified : Realises origin frame below below
      (do let quantifier ← terminal; let query ← call .subquery; let span ← spanFrom start
          return BooleanPrimary.quantified span left operator quantifier query)
      (do let quantifier ← Parse.terminal; let query ← Parse.subquery nested
          let span ← Parse.spanFrom start
          return BooleanPrimary.quantified span left operator quantifier query) := by
    refine realises_terminal.here.bind fun quantifier => ?_
    refine (query.call_behind behind).bind fun query => ?_
    exact realises_closing start _
  have compared : Realises origin frame below below
      (do let right ← call .predicate; let span ← spanFrom start
          return BooleanPrimary.comparison span left operator right)
      (do let right ← nested.predicate; let span ← Parse.spanFrom start
          return BooleanPrimary.comparison span left operator right) := by
    refine (inner.predicate.call_behind behind).bind fun right => ?_
    exact realises_closing start _
  rcases kind with _ | _ | _ | _ | _ | _ | word | sign | _ | _
  case keyword => cases word <;> first | exact compared | exact quantified
  all_goals exact compared

theorem primaryChain_performs (start : Nat) (left : BooleanPrimary) {rounds : Nat}
    (inner : nested.Performs origin bound) (few : bound ≤ rounds) :
    Performs origin (.primaryChain start left) bound
      (Parse.primaryChain nested start rounds left) := by
  refine performs_of_rounds (.primaryChain start) (Parse.primaryChain nested start) ends
    (fun _ => rfl) (fun rounds left _ _ _ _ => ?_) (fun rounds below least others left => ?_) rounds
    bound few (Nat.le_refl bound) left
  · cases rounds <;> exact ⟨left, rfl, .look .give⟩
  have deeper := inner.mono (Nat.le_of_lt least)
  have behind : below < (⟨.primaryChain start left, below + 1⟩ : Frame).position :=
    Nat.lt_succ_self below
  refine (realises_kindAhead 0).bind fun kind => realises_ite (fun _ => ?_) fun _ => ?_
  · refine (truthTest_realises start left).bind fun test => ?_
    exact ((others _).call_behind behind).wide
  · refine realises_ite (fun _ => ?_) fun _ => realises_pure left
    refine (comparison_realises ends start left deeper behind).bind fun compared => ?_
    exact ((others _).call_behind behind).wide

theorem booleanPrimary_performs (inner : nested.Performs origin bound)
    (fails : nested.FailsAtEnd) :
    Performs origin .booleanPrimary (bound + 1) (Parse.booleanPrimary nested) := by
  have missing : Parse.FailsAtEnd .expression (Parse.booleanPrimary nested) :=
    Parse.FailsAtEnd.after_offset fun _ =>
      Parse.FailsAtEnd.bind fun cursor => Parse.predicate_atEnd nested
  refine performs_of_steps ends stops_booleanPrimary missing fun below few => ?_
  have deeper := inner.mono (Nat.le_of_lt_succ few)
  refine realises_offset.bind fun start => ?_
  refine ((predicate_performs ends deeper fails).call_lower (by decide) rfl).bind fun first => ?_
  refine realises_remaining_bind fun rounds least => ?_
  have chain := primaryChain_performs ends start (.predicate first) (deeper.mono least)
    (Nat.le_refl rounds)
  exact (chain.call_behind (Nat.lt_succ_of_le least)).mono (Nat.le_refl rounds) least

end

end AnnotatedSql.Grammar.Script
