/-
This file shows that names, lists and function calls are parsed step by step as their scripts say.
-/

import AnnotatedSql.Proofs.Grammar.Locality.Call
import AnnotatedSql.Proofs.Grammar.Script.Course

namespace AnnotatedSql.Grammar

namespace Parse

/-- The nested parsers run their routines with at most so many tokens left. -/
structure Nested.Performs (origin : Cursor) (bound : Nat) (nested : Nested) : Prop where
  expr (minimum : Nat) : Script.Performs origin (.expr minimum) bound (nested.expr minimum)
  predicate : Script.Performs origin .predicate bound nested.predicate
  bitExpr (minimum : Nat) :
    Script.Performs origin (.bitExpr minimum) bound (nested.bitExpr minimum)
  simpleExpr : Script.Performs origin .simpleExpr bound nested.simpleExpr
  select : Script.Performs origin .select bound nested.select

theorem Nested.Performs.mono {origin : Cursor} {bound fewer : Nat} {nested : Nested}
    (inner : nested.Performs origin bound) (least : fewer ≤ bound) :
    nested.Performs origin fewer where
  expr minimum := (inner.expr minimum).mono least
  predicate := inner.predicate.mono least
  bitExpr minimum := (inner.bitExpr minimum).mono least
  simpleExpr := inner.simpleExpr.mono least
  select := inner.select.mono least

end Parse

namespace Script

open Parse (Nested)

variable {origin : Cursor} {frame : Frame} {bound below : Nat} {nested : Nested}

section
variable (ends : origin.Ends)
include ends

/-! ### Names and lists -/

theorem identifier_performs : Performs origin .identifier bound Parse.identifier := by
  refine performs_of_steps ends stops_identifier Parse.identifier_failsAtEnd fun below _ => ?_
  refine realises_current.bind fun token => ?_
  cases token.kind with
  | identifier | quotedIdentifier => exact realises_advance.bind fun _ => realises_pure _
  | keyword word =>
      refine realises_ite (fun _ => ?_) fun _ => realises_fail _
      exact realises_advance.bind fun _ => realises_pure _
  | _ => exact realises_fail _

theorem qualifiedName_performs : Performs origin .qualifiedName bound Parse.qualifiedName := by
  refine performs_of_steps ends stops_qualifiedName Parse.qualifiedName_failsAtEnd fun below _ => ?_
  refine realises_offset.bind fun start => ?_
  refine ((identifier_performs ends).call_lower (by decide) rfl).bind fun owner => ?_
  refine (realises_atKind _).bind fun dotted => (realises_kindAhead 1).bind fun following => ?_
  refine realises_ite (fun _ => ?_) fun _ => realises_pure _
  refine realises_advance.here.bind fun _ => ?_
  refine ((identifier_performs ends).call_behind (Nat.lt_succ_self below)).bind fun name => ?_
  exact realises_closing start _

/-- A label behind the place where the routine started. -/
theorem label_realises (behind : below < frame.position) :
    Realises origin frame below below label Parse.label :=
  ((identifier_performs ends).call_behind behind).bind fun _ => realises_pure _

theorem itemLabel_performs : Performs origin .itemLabel bound Parse.itemLabel? := by
  refine performs_of_optional_steps ends rfl
    (fun _ _ _ _ => ⟨none, rfl, .look (.look .give)⟩) fun below _ => ?_
  refine (realises_atKind _).bind fun led => realises_ite (fun _ => ?_) fun _ => ?_
  · refine realises_advance.bind fun _ => ?_
    refine (label_realises ends (Nat.lt_succ_self below)).bind fun name => ?_
    exact (realises_pure (some name)).wide
  · refine (realises_kindAhead 0).bind fun following => ?_
    refine realises_ite (fun _ => ?_) fun _ => realises_pure none
    have name : Realises origin ⟨.itemLabel, below + 1⟩ (below + 1) below label Parse.label :=
      ((identifier_performs ends).call_lower (by decide) rfl).bind fun _ => realises_pure _
    exact name.bind fun name => (realises_pure (some name)).wide

/-- Rounds of a list in which each item is parsed as its script says. -/
theorem commaListUpTo_performs {each : Item} {parser : Parser each.Node} {rounds : Nat}
    (fails : Parse.FailsAtEnd each.expected parser)
    (realises : ∀ below < bound,
      Realises origin ⟨.list each, below + 1⟩ (below + 1) below (item each) parser)
    (few : bound ≤ rounds) :
    Performs origin (.list each) bound (Parse.commaListUpTo parser rounds) := by
  induction rounds generalizing bound with
  | zero =>
      refine performs_of_steps ends (stops_list each) fails.bind fun below least => ?_
      exact absurd least (by omega)
  | succ rounds ih =>
      refine performs_of_steps ends (stops_list each) fails.bind fun below least => ?_
      refine (realises below least).bind fun node => (realises_atKind _).bind fun further => ?_
      refine realises_ite (fun _ => ?_) fun _ => realises_pure [node]
      have others : Performs origin (.list each) below (Parse.commaListUpTo parser rounds) :=
        ih (fun fewer less => realises fewer (by omega)) (by omega)
      refine realises_advance.here.bind fun _ => ?_
      exact (others.call_behind (Nat.lt_succ_self below)).bind fun others => realises_pure _

theorem commaList_performs {each : Item} {parser : Parser each.Node}
    (fails : Parse.FailsAtEnd each.expected parser)
    (realises : ∀ below < bound,
      Realises origin ⟨.list each, below + 1⟩ (below + 1) below (item each) parser) :
    Performs origin (.list each) bound (Parse.commaList parser) :=
  performs_remaining_bind fun rounds few => commaListUpTo_performs ends fails
    (fun below least => realises below (Nat.lt_of_lt_of_le least few)) (Nat.le_refl rounds)

theorem nameList_performs : Performs origin .nameList bound Parse.nameList := by
  have fails : Parse.FailsAtEnd .identifier Parse.nameList :=
    Parse.FailsAtEnd.after_offset fun _ =>
      (Parse.commaList_failsAtEnd Parse.qualifiedName_failsAtEnd).bind
  refine performs_of_steps ends stops_nameList fails fun below _ => ?_
  have names : Performs origin (.list .name) (below + 1) (Parse.commaList Parse.qualifiedName) :=
    commaList_performs ends Parse.qualifiedName_failsAtEnd fun _ _ =>
      (qualifiedName_performs ends).call_lower (by decide) rfl
  refine realises_offset.bind fun start => (names.call_lower (by decide) rfl).bind fun names => ?_
  exact realises_closing start _

/-! ### Data types -/

theorem words_performs {rounds : Nat} (few : bound ≤ rounds) :
    Performs origin .words bound (Parse.skipIdentifiers rounds) := by
  refine performs_of_rounds (fun _ : Unit => .words) (fun rounds _ => Parse.skipIdentifiers rounds)
    ends (fun _ => rfl) (fun rounds _ _ _ _ _ => ?_) (fun rounds below least others _ => ?_) rounds
    bound few (Nat.le_refl bound) ()
  · cases rounds <;> exact ⟨(), rfl, .look .give⟩
  refine (realises_atKind _).bind fun found => realises_ite (fun _ => ?_) fun _ => realises_pure _
  exact realises_advance.bind fun _ => ((others ()).call_behind (Nat.lt_succ_self below)).wide

omit ends in
theorem dataTypeLength_realises :
    Realises origin frame below below dataTypeLength Parse.dataTypeLength := by
  refine realises_advance.here.bind fun _ => (realises_expectKind _).here.bind fun length => ?_
  refine (realises_atKind _).bind fun scaled => ?_
  have closes : Realises origin frame below below
      (do let _ ← expectSymbol .rightParen) (do let _ ← Parse.expectSymbol .rightParen) :=
    (realises_expectKind _).here.bind fun _ => realises_pure ()
  refine realises_ite (fun _ => ?_) fun _ => closes
  exact realises_advance.here.bind fun _ =>
    (realises_expectKind _).here.bind fun scale => closes

omit ends in
/-- At a word, the first round of the loop over the words skips it. -/
theorem skipIdentifiers_bind {Value : Type} {next : Unit → Parser Value} {missing : Parser Value}
    {cursor : Cursor} (cursorEnds : cursor.Ends) :
    (do if ← Parse.atKind .identifier then
          let rounds ← Parse.remaining
          Parse.skipIdentifiers rounds >>= next
        else missing : Parser Value) cursor =
      (do if ← Parse.atKind .identifier then
            Parse.advance
            (do let rounds ← Parse.remaining; Parse.skipIdentifiers rounds) >>= next
          else missing : Parser Value) cursor := by
  change (if (cursor.current.kind == .identifier) = true then _ else _ : Parser Value) cursor =
    (if (cursor.current.kind == .identifier) = true then _ else _ : Parser Value) cursor
  split
  case isFalse => rfl
  case isTrue found =>
    obtain ⟨unread, ending, lastStop, rejected⟩ := cursor
    cases unread with
    | nil => exact absurd (cursorEnds.symm.trans (beq_iff_eq.mp found)) (by simp)
    | cons token rest =>
        have skips : Parse.skipIdentifiers (rest.length + 1)
            ⟨token :: rest, ending, lastStop, rejected⟩ =
              Parse.skipIdentifiers rest.length ⟨rest, ending, some token.span.stop, rejected⟩ := by
          change (if (token.kind == .identifier) = true then _ else _ : Parser _) _ = _
          rw [show (token.kind == .identifier) = true from found]
          rfl
        have left : Cursor.position ⟨token :: rest, ending, lastStop, rejected⟩ =
          rest.length + 1 := rfl
        have moves : Parse.advance ⟨token :: rest, ending, lastStop, rejected⟩ =
            (.ok (), ⟨rest, ending, some token.span.stop, rejected⟩) := rfl
        rw [Parse.bind_look Parse.remaining_run, left, Parse.bind_run, skips,
          Parse.bind_run Parse.advance, moves]
        change _ = ((_ >>= _) >>= _ : Parser Value) _
        rw [Parse.bind_run _ next, Parse.bind_look Parse.remaining_run]
        rfl

theorem dataType_performs : Performs origin .dataType bound Parse.dataType := by
  refine performs_of_steps ends stops_dataType Parse.dataType_failsAtEnd fun below _ => ?_
  refine realises_offset.bind fun start => Realises.congr ends skipIdentifiers_bind ?_
  refine (realises_atKind _).bind fun named => realises_ite (fun _ => ?_) fun _ => realises_fail _
  have words : Performs origin .words below
      (do let rounds ← Parse.remaining; Parse.skipIdentifiers rounds) :=
    performs_remaining_bind fun rounds _ => words_performs ends (Nat.le_refl rounds)
  have covers (name : Span) : Realises origin ⟨.dataType, below + 1⟩ below below
      (do let span ← spanFrom start; return (⟨span, name⟩ : DataType))
      (do let span ← Parse.spanFrom start; return ⟨span, name⟩) :=
    realises_closing start _
  refine realises_advance.bind fun _ => ?_
  refine (words.call_behind (Nat.lt_succ_self below)).bind fun _ => ?_
  refine (realises_spanFrom start).bind fun name => (realises_atKind _).bind fun sized => ?_
  refine realises_ite (fun _ => ?_) fun _ => covers name
  exact dataTypeLength_realises.bind fun _ => covers name

/-! ### Calls -/

theorem subquery_performs (inner : nested.Performs origin bound) :
    Performs origin .subquery (bound + 1) (Parse.subquery nested) := by
  refine performs_of_steps ends stops_subquery (Parse.subquery_failsAtEnd nested)
    fun below few => ?_
  have select : Performs origin .select below nested.select := inner.select.mono (by omega)
  refine realises_offset.bind fun start => (realises_expectKind _).bind fun leftParen => ?_
  refine (select.call_behind (Nat.lt_succ_self below)).bind fun select => ?_
  refine (realises_expectKind _).here.bind fun rightParen => ?_
  exact realises_closing start _

theorem exprList_performs (inner : nested.Performs origin bound) (fails : nested.FailsAtEnd) :
    Performs origin (.list .expr) bound (Parse.exprList nested) :=
  commaList_performs ends (fails.expr 0) fun _ less =>
    ((inner.expr 0).mono less).call_lower (by decide) rfl

theorem argumentsUpTo_performs {rounds : Nat} (inner : nested.Performs origin bound)
    (fails : nested.FailsAtEnd) (few : bound ≤ rounds) :
    Performs origin .arguments bound (Parse.argumentsUpTo nested rounds) := by
  induction rounds generalizing bound with
  | zero =>
      refine performs_of_steps ends stops_arguments
        (Parse.argumentsUpTo_failsAtEnd fails 0) fun below least => ?_
      exact absurd least (by omega)
  | succ rounds ih =>
      refine performs_of_steps ends stops_arguments
        (Parse.argumentsUpTo_failsAtEnd fails _) fun below least => ?_
      refine (((inner.expr 0).mono least).call_lower (by decide) rfl).bind fun first => ?_
      refine (realises_atKind _).bind fun further =>
        realises_ite (fun _ => ?_) fun _ => realises_pure _
      have others := ih (inner.mono (Nat.le_of_lt least)) (by omega)
      refine realises_terminal.here.bind fun comma => ?_
      exact (others.call_behind (Nat.lt_succ_self below)).bind fun others => realises_pure _

section
variable (behind : below < frame.position) (inner : nested.Performs origin below)
include behind inner

theorem aggregationArguments_realises (fails : nested.FailsAtEnd) :
    Realises origin frame below below aggregationArguments (Parse.aggregationArguments nested) := by
  have others : Performs origin .arguments below
      (do let rounds ← Parse.remaining; Parse.argumentsUpTo nested rounds) :=
    performs_remaining_bind fun rounds few =>
      argumentsUpTo_performs ends (inner.mono few) fails (Nat.le_refl rounds)
  refine (realises_atKind _).bind fun all => realises_ite (fun _ => ?_) fun _ => ?_
  · exact realises_terminal.here.bind fun star => realises_pure _
  · refine (realises_atKind _).bind fun none => realises_ite (fun _ => realises_pure []) fun _ => ?_
    exact others.call_behind behind

omit ends in
theorem argumentAfter_realises (word : Keyword) :
    Realises origin frame below below (argumentAfter? word) (Parse.argumentAfter? nested word) := by
  refine (realises_atKind _).bind fun worded => (realises_atKind _).bind fun separated => ?_
  refine realises_ite (fun _ => ?_) fun _ => realises_pure none
  refine realises_advance.here.bind fun _ => ?_
  exact ((inner.expr 0).call_behind behind).bind fun node => realises_pure (some node)

omit ends behind inner in
theorem skipTrimSide_realises :
    Realises origin frame below below skipTrimSide Parse.skipTrimSide := by
  refine (realises_kindAhead 0).bind fun kind => ?_
  rcases kind with _ | _ | _ | _ | _ | _ | word | sign | _ | _
  case keyword =>
    cases word <;> first | exact realises_advance.here | exact realises_pure ()
  all_goals exact realises_pure ()

omit ends in
theorem trimmed_realises :
    Realises origin frame below below trimmed? (Parse.trimmed? nested) := by
  have found : Realises origin frame below below
      (do let argument ← call (.expr 0); return some argument)
      (do let argument ← nested.expr 0; return some argument) :=
    ((inner.expr 0).call_behind behind).bind fun node => realises_pure (some node)
  refine (realises_kindAhead 0).bind fun kind => ?_
  rcases kind with _ | _ | _ | _ | _ | _ | word | sign | _ | _
  case keyword => cases word <;> first | exact found | exact realises_pure none
  case symbol => cases sign <;> first | exact found | exact realises_pure none
  all_goals exact found

omit ends in
theorem trimSource_realises :
    Realises origin frame below below trimSource? (Parse.trimSource? nested) :=
  realises_led ((inner.expr 0).call_behind behind)

theorem regularArguments_realises (fails : nested.FailsAtEnd) :
    Realises origin frame below below regularArguments (Parse.regularArguments nested) := by
  refine (realises_atKind _).bind fun all => realises_ite (fun _ => ?_) fun _ => ?_
  · exact realises_terminal.here.bind fun star => realises_pure _
  · refine (realises_atKind _).bind fun none => realises_ite (fun _ => realises_pure _) fun _ => ?_
    refine ((exprList_performs ends inner fails).call_behind behind).bind fun arguments => ?_
    exact realises_pure _

end

omit ends in
/-- Without a token, what consumes the word of a call misses its parenthesis. -/
theorem call_failsAtEnd {Value : Type} {parser : Parser Value}
    (fails : ∀ text span lastStop rejected,
      parser (lastPlace text span lastStop rejected) =
        Parse.fail (.token (.symbol .leftParen)) (lastPlace text span lastStop rejected)) :
    Parse.FailsAtEnd (.token (.symbol .leftParen)) parser := by
  intro cursor atEnd
  obtain ⟨text, span, lastStop, rejected, rfl⟩ := atEnd_lastPlace atEnd
  exact fails text span lastStop rejected

section
variable (inner : nested.Performs origin bound)
include inner

theorem aggregationCall_performs (fails : nested.FailsAtEnd) :
    Performs origin .aggregation (bound + 1) (Parse.aggregationCall nested) := by
  refine performs_of_steps ends stops_aggregation (call_failsAtEnd fun _ _ _ _ => rfl)
    fun below few => ?_
  have deeper := inner.mono (Nat.le_of_lt_succ few)
  refine realises_offset.bind fun start => realises_terminal.bind fun name => ?_
  refine (realises_expectKind _).here.bind fun leftParen => ?_
  refine (realises_keyword _).bind fun distinct => ?_
  refine (aggregationArguments_realises ends (Nat.lt_succ_self below) deeper fails).bind
    fun arguments => ?_
  refine (realises_expectKind _).here.bind fun rightParen => ?_
  exact realises_closing start _

theorem castCall_performs : Performs origin .cast (bound + 1) (Parse.castCall nested) := by
  refine performs_of_steps ends stops_cast (call_failsAtEnd fun _ _ _ _ => rfl) fun below few => ?_
  have deeper := inner.mono (Nat.le_of_lt_succ few)
  refine realises_offset.bind fun start => realises_advance.bind fun _ => ?_
  refine (realises_expectKind _).here.bind fun leftParen => ?_
  refine ((deeper.expr 0).call_behind (Nat.lt_succ_self below)).bind fun operand => ?_
  refine (realises_expectKeyword _).here.bind fun word => ?_
  refine ((dataType_performs ends).call_behind (Nat.lt_succ_self below)).bind fun target => ?_
  refine (realises_expectKind _).here.bind fun rightParen => ?_
  exact realises_closing start _

theorem substringCall_performs :
    Performs origin .substring (bound + 1) (Parse.substringCall nested) := by
  refine performs_of_steps ends stops_substring (call_failsAtEnd fun _ _ _ _ => rfl)
    fun below few => ?_
  have deeper := inner.mono (Nat.le_of_lt_succ few)
  have behind : below < (⟨.substring, below + 1⟩ : Frame).position := Nat.lt_succ_self below
  refine realises_offset.bind fun start => realises_advance.bind fun _ => ?_
  refine (realises_expectKind _).here.bind fun leftParen => ?_
  refine ((deeper.expr 0).call_behind behind).bind fun source => ?_
  refine (argumentAfter_realises behind deeper _).bind fun from? => ?_
  have closes (third : Option Expr) : Realises origin ⟨.substring, below + 1⟩ below below
      (do let _ ← expectSymbol .rightParen; let span ← spanFrom start
          return SpecialCall.substring span (source :: from?.toList ++ third.toList))
      (do let _ ← Parse.expectSymbol .rightParen; let span ← Parse.spanFrom start
          return SpecialCall.substring span (source :: from?.toList ++ third.toList)) :=
    (realises_expectKind _).here.bind fun _ =>
      (realises_spanFrom start).bind fun _ => realises_pure _
  refine realises_ite (fun _ => ?_) fun _ => (realises_pure none).bind closes
  exact (argumentAfter_realises behind deeper _).bind closes

theorem extractCall_performs :
    Performs origin .extract (bound + 1) (Parse.extractCall nested) := by
  refine performs_of_steps ends stops_extract (call_failsAtEnd fun _ _ _ _ => rfl)
    fun below few => ?_
  have deeper := inner.mono (Nat.le_of_lt_succ few)
  refine realises_offset.bind fun start => realises_advance.bind fun _ => ?_
  refine (realises_expectKind _).here.bind fun leftParen => ?_
  refine ((identifier_performs ends).call_behind (Nat.lt_succ_self below)).bind fun field => ?_
  refine (realises_expectKeyword _).here.bind fun word => ?_
  refine ((deeper.expr 0).call_behind (Nat.lt_succ_self below)).bind fun source => ?_
  refine (realises_expectKind _).here.bind fun rightParen => ?_
  exact realises_closing start _

theorem trimCall_performs : Performs origin .trim (bound + 1) (Parse.trimCall nested) := by
  refine performs_of_steps ends stops_trim (call_failsAtEnd fun _ _ _ _ => rfl) fun below few => ?_
  have deeper := inner.mono (Nat.le_of_lt_succ few)
  have behind : below < (⟨.trim, below + 1⟩ : Frame).position := Nat.lt_succ_self below
  refine realises_offset.bind fun start => realises_advance.bind fun _ => ?_
  refine (realises_expectKind _).here.bind fun leftParen => skipTrimSide_realises.bind fun _ => ?_
  refine (trimmed_realises behind deeper).bind fun trimmed => ?_
  refine (trimSource_realises behind deeper).bind fun source => ?_
  refine (realises_expectKind _).here.bind fun rightParen => ?_
  exact realises_closing start _

theorem regularCall_performs (fails : nested.FailsAtEnd) :
    Performs origin .regular (bound + 1) (Parse.regularCall nested) := by
  have missing : Parse.FailsAtEnd .identifier (Parse.regularCall nested) :=
    Parse.FailsAtEnd.after_offset fun _ => Parse.identifier_failsAtEnd.bind
  refine performs_of_steps ends stops_regular missing fun below few => ?_
  have deeper := inner.mono (Nat.le_of_lt_succ few)
  refine realises_offset.bind fun start => ?_
  refine ((identifier_performs ends).call_lower (by decide) rfl).bind fun name => ?_
  refine (realises_expectKind _).here.bind fun leftParen => ?_
  refine (regularArguments_realises ends (Nat.lt_succ_self below) deeper fails).bind fun nodes => ?_
  refine (realises_expectKind _).here.bind fun rightParen => ?_
  exact realises_closing start _

end

end

end Script

end AnnotatedSql.Grammar
