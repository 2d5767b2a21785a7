/-
This file shows that names, lists and function calls are parsed alike, whatever was given up
before.
-/

import AnnotatedSql.Proofs.Grammar.Backtracking.Agreement

namespace AnnotatedSql.Grammar.Parse

variable {origin : Cursor} {retry : Retry} {bound : Nat} {first second : Nested}

/-! ### Names and lists -/

theorem keyword_agree (word : Keyword) :
    Agree origin retry bound bound (keyword? word) (keyword? word) := by
  refine (agree_atKind _).bind fun found => agree_ite (fun _ => ?_) fun _ => agree_pure none
  exact agree_terminal.here.bind fun span => agree_pure (some span)

theorem identifier_agree : Agree origin retry bound bound identifier identifier := by
  refine agree_current.bind fun token => ?_
  split
  · exact agree_advance.here.bind fun _ => agree_pure _
  · exact agree_advance.here.bind fun _ => agree_pure _
  · exact agree_ite (fun _ => agree_advance.here.bind fun _ => agree_pure _) fun _ => agree_fail _
  · exact agree_fail _

theorem qualifiedName_agree : Agree origin retry bound bound qualifiedName qualifiedName := by
  refine agree_offset.bind fun start => identifier_agree.bind fun owner => ?_
  refine (agree_atKind _).bind fun dotted => (agree_kindAhead 1).bind fun following => ?_
  refine agree_ite (fun _ => ?_) fun _ => agree_pure _
  refine agree_advance.here.bind fun _ => identifier_agree.bind fun name => ?_
  exact (agree_spanFrom start).bind fun span => agree_pure _

theorem label_agree : Agree origin retry bound bound label label :=
  identifier_agree.bind fun _ => agree_pure _

theorem itemLabel_agree : Agree origin retry bound bound itemLabel? itemLabel? := by
  refine (agree_atKind _).bind fun led => agree_ite (fun _ => ?_) fun _ => ?_
  · exact agree_advance.here.bind fun _ => label_agree.bind fun name => agree_pure (some name)
  · refine (agree_kindAhead 0).bind fun following => ?_
    refine agree_ite (fun _ => ?_) fun _ => agree_pure none
    exact label_agree.bind fun name => agree_pure (some name)

theorem commaListUpTo_agree {Item : Type} {item other : Parser Item}
    (each : Agree origin retry bound bound item other) (rounds : Nat) :
    Agree origin retry bound bound (commaListUpTo item rounds) (commaListUpTo other rounds) := by
  induction rounds with
  | zero => exact each.bind fun node => agree_pure [node]
  | succ rounds ih =>
      refine each.bind fun node => (agree_atKind _).bind fun further => ?_
      refine agree_ite (fun _ => ?_) fun _ => agree_pure [node]
      exact agree_advance.here.bind fun _ => ih.bind fun others => agree_pure (node :: others)

theorem commaList_agree {Item : Type} {item other : Parser Item}
    (each : Agree origin retry bound bound item other) :
    Agree origin retry bound bound (commaList item) (commaList other) :=
  agree_remaining.bind fun rounds => commaListUpTo_agree each rounds

theorem nameList_agree : Agree origin retry bound bound nameList nameList := by
  refine agree_offset.bind fun start => (commaList_agree qualifiedName_agree).bind fun names => ?_
  exact (agree_spanFrom start).bind fun span => agree_pure _

/-! ### Data types -/

theorem skipIdentifiers_agree (rounds : Nat) :
    Agree origin retry bound bound (skipIdentifiers rounds) (skipIdentifiers rounds) := by
  induction rounds with
  | zero => exact agree_pure ()
  | succ rounds ih =>
      refine (agree_atKind _).bind fun found => agree_ite (fun _ => ?_) fun _ => agree_pure ()
      exact agree_advance.here.bind fun _ => ih

theorem dataTypeLength_agree : Agree origin retry bound bound dataTypeLength dataTypeLength := by
  refine agree_advance.here.bind fun _ => (agree_expectKind _).here.bind fun length => ?_
  refine (agree_atKind _).bind fun scaled => ?_
  have closes : Agree origin retry bound bound
      (do let _ ← expectSymbol .rightParen) (do let _ ← expectSymbol .rightParen) :=
    (agree_expectKind _).here.bind fun _ => agree_pure ()
  refine agree_ite (fun _ => ?_) fun _ => closes
  exact agree_advance.here.bind fun _ => (agree_expectKind _).here.bind fun scale => closes

theorem dataType_agree : Agree origin retry bound bound dataType dataType := by
  refine agree_offset.bind fun start => (agree_atKind _).bind fun found => ?_
  refine agree_ite (fun _ => ?_) fun _ => agree_fail _
  refine agree_remaining.bind fun rounds => (skipIdentifiers_agree rounds).bind fun _ => ?_
  refine (agree_spanFrom start).bind fun name => (agree_atKind _).bind fun sized => ?_
  have covers : Agree origin retry bound bound
      (do let span ← spanFrom start; return (⟨span, name⟩ : DataType))
      (do let span ← spanFrom start; return ⟨span, name⟩) :=
    (agree_spanFrom start).bind fun span => agree_pure _
  exact agree_ite (fun _ => dataTypeLength_agree.bind fun _ => covers) fun _ => covers

/-! ### Calls -/

theorem subquery_agree (inner : Nested.Agree origin retry bound first second) :
    Agree origin retry (bound + 1) bound (subquery first) (subquery second) := by
  refine agree_offset.bind fun start => (agree_expectKind _).bind fun opening => ?_
  refine inner.select.bind fun query => (agree_expectKind _).here.bind fun closing => ?_
  exact (agree_spanFrom start).bind fun span => agree_pure _

theorem exprList_agree (inner : Nested.Agree origin retry bound first second) :
    Agree origin retry bound bound (exprList first) (exprList second) :=
  commaList_agree (inner.expr 0)

theorem argumentsUpTo_agree (inner : Nested.Agree origin retry bound first second) (rounds : Nat) :
    Agree origin retry bound bound (argumentsUpTo first rounds) (argumentsUpTo second rounds) := by
  induction rounds with
  | zero => exact (inner.expr 0).bind fun node => agree_pure _
  | succ rounds ih =>
      refine (inner.expr 0).bind fun node => (agree_atKind _).bind fun further => ?_
      refine agree_ite (fun _ => ?_) fun _ => agree_pure _
      exact agree_terminal.here.bind fun comma => ih.bind fun others => agree_pure _

theorem aggregationArguments_agree (inner : Nested.Agree origin retry bound first second) :
    Agree origin retry bound bound (aggregationArguments first) (aggregationArguments second) := by
  refine (agree_atKind _).bind fun all => agree_ite (fun _ => ?_) fun _ => ?_
  · exact agree_terminal.here.bind fun star => agree_pure _
  · refine (agree_atKind _).bind fun none => agree_ite (fun _ => agree_pure []) fun _ => ?_
    exact agree_remaining.bind fun rounds => argumentsUpTo_agree inner rounds

theorem aggregationCall_agree (inner : Nested.Agree origin retry bound first second) :
    Agree origin retry (bound + 1) bound (aggregationCall first) (aggregationCall second) := by
  refine agree_offset.bind fun start => agree_terminal.bind fun name => ?_
  refine (agree_expectKind _).here.bind fun opening => (keyword_agree _).bind fun distinct => ?_
  refine (aggregationArguments_agree inner).bind fun arguments => ?_
  refine (agree_expectKind _).here.bind fun closing => ?_
  exact (agree_spanFrom start).bind fun span => agree_pure _

theorem castCall_agree (inner : Nested.Agree origin retry bound first second) :
    Agree origin retry (bound + 1) bound (castCall first) (castCall second) := by
  refine agree_offset.bind fun start => agree_advance.bind fun _ => ?_
  refine (agree_expectKind _).here.bind fun opening => (inner.expr 0).bind fun operand => ?_
  refine (agree_expectKeyword _).here.bind fun word => dataType_agree.bind fun target => ?_
  refine (agree_expectKind _).here.bind fun closing => ?_
  exact (agree_spanFrom start).bind fun span => agree_pure _

theorem argumentAfter_agree (inner : Nested.Agree origin retry bound first second)
    (word : Keyword) :
    Agree origin retry bound bound (argumentAfter? first word) (argumentAfter? second word) := by
  refine (agree_atKind _).bind fun worded => (agree_atKind _).bind fun separated => ?_
  refine agree_ite (fun _ => ?_) fun _ => agree_pure none
  exact agree_advance.here.bind fun _ => (inner.expr 0).bind fun node => agree_pure (some node)

theorem substringCall_agree (inner : Nested.Agree origin retry bound first second) :
    Agree origin retry (bound + 1) bound (substringCall first) (substringCall second) := by
  refine agree_offset.bind fun start => agree_advance.bind fun _ => ?_
  refine (agree_expectKind _).here.bind fun opening => (inner.expr 0).bind fun source => ?_
  refine (argumentAfter_agree inner _).bind fun from? => ?_
  have closes (third : Option Expr) : Agree origin retry bound bound
      (do let _ ← expectSymbol .rightParen; let span ← spanFrom start
          return SpecialCall.substring span (source :: from?.toList ++ third.toList))
      (do let _ ← expectSymbol .rightParen; let span ← spanFrom start
          return SpecialCall.substring span (source :: from?.toList ++ third.toList)) :=
    (agree_expectKind _).here.bind fun _ => (agree_spanFrom start).bind fun _ => agree_pure _
  refine agree_ite (fun _ => ?_) fun _ => (agree_pure none).bind closes
  exact (argumentAfter_agree inner _).bind closes

theorem extractCall_agree (inner : Nested.Agree origin retry bound first second) :
    Agree origin retry (bound + 1) bound (extractCall first) (extractCall second) := by
  refine agree_offset.bind fun start => agree_advance.bind fun _ => ?_
  refine (agree_expectKind _).here.bind fun opening => identifier_agree.bind fun field => ?_
  refine (agree_expectKeyword _).here.bind fun word => (inner.expr 0).bind fun source => ?_
  refine (agree_expectKind _).here.bind fun closing => ?_
  exact (agree_spanFrom start).bind fun span => agree_pure _

theorem skipTrimSide_agree : Agree origin retry bound bound skipTrimSide skipTrimSide := by
  refine (agree_kindAhead 0).bind fun kind => ?_
  split
  all_goals first | exact agree_advance.here | exact agree_pure ()

theorem trimmed_agree (inner : Nested.Agree origin retry bound first second) :
    Agree origin retry bound bound (trimmed? first) (trimmed? second) := by
  refine (agree_kindAhead 0).bind fun kind => ?_
  split
  · exact agree_pure none
  · exact agree_pure none
  · exact (inner.expr 0).bind fun node => agree_pure (some node)

theorem trimSource_agree (inner : Nested.Agree origin retry bound first second) :
    Agree origin retry bound bound (trimSource? first) (trimSource? second) := by
  refine (agree_atKind _).bind fun led => agree_ite (fun _ => ?_) fun _ => agree_pure none
  exact agree_advance.here.bind fun _ => (inner.expr 0).bind fun node => agree_pure (some node)

theorem trimCall_agree (inner : Nested.Agree origin retry bound first second) :
    Agree origin retry (bound + 1) bound (trimCall first) (trimCall second) := by
  refine agree_offset.bind fun start => agree_advance.bind fun _ => ?_
  refine (agree_expectKind _).here.bind fun opening => skipTrimSide_agree.bind fun _ => ?_
  refine (trimmed_agree inner).bind fun trimmed => (trimSource_agree inner).bind fun source => ?_
  refine (agree_expectKind _).here.bind fun closing => ?_
  exact (agree_spanFrom start).bind fun span => agree_pure _

theorem regularArguments_agree (inner : Nested.Agree origin retry bound first second) :
    Agree origin retry bound bound (regularArguments first) (regularArguments second) := by
  refine (agree_atKind _).bind fun all => agree_ite (fun _ => ?_) fun _ => ?_
  · exact agree_terminal.here.bind fun star => agree_pure _
  · refine (agree_atKind _).bind fun none => agree_ite (fun _ => agree_pure _) fun _ => ?_
    exact (exprList_agree inner).bind fun arguments => agree_pure _

theorem regularCall_agree (inner : Nested.Agree origin retry bound first second) :
    Agree origin retry (bound + 1) bound (regularCall first) (regularCall second) := by
  refine agree_offset.bind fun start => identifier_agree.bind fun name => ?_
  refine (agree_expectKind _).bind fun opening => ?_
  refine (regularArguments_agree inner).bind fun nodes => ?_
  refine (agree_expectKind _).here.bind fun closing => ?_
  exact (agree_spanFrom start).bind fun span => agree_pure _

end AnnotatedSql.Grammar.Parse
