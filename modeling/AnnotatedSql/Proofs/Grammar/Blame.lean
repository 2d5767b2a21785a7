/-
This file shows that every parser that fails stands at the token its error is about, however deep
the failure lies.
-/

import AnnotatedSql.Grammar.Parse
import AnnotatedSql.Proofs.Grammar.Consumption

namespace AnnotatedSql.Grammar.Parse

variable {Value Result : Type} {nested : Nested}

/-- Where the parser fails, it stands at the token that its error is about. -/
def Blames (parser : Parser Value) : Prop :=
  ∀ cursor error later, parser cursor = (.error error, later) →
    ∃ expected, error = .atToken expected later.current

theorem Blames.bind {parser : Parser Value} {next : Value → Parser Result}
    (start : Blames parser) (further : ∀ value, Blames (next value)) :
    Blames (parser >>= next) := by
  intro cursor error later run
  rw [bind_run] at run
  rcases first : parser cursor with ⟨cause | value, middle⟩
  · rw [first] at run
    cases run
    exact start cursor _ _ first
  · rw [first] at run
    exact further value middle error later run

/-! ### Steps -/

/-- What never fails has no token to stand at. -/
theorem blames_of_succeeds {parser : Parser Value}
    (succeeds : ∀ cursor, ∃ value later, parser cursor = (.ok value, later)) : Blames parser := by
  intro cursor error later run
  obtain ⟨value, after, found⟩ := succeeds cursor
  rw [found] at run
  cases run

theorem blames_pure (value : Value) : Blames (pure value) :=
  blames_of_succeeds fun cursor => ⟨value, cursor, rfl⟩

theorem blames_fail (expected : Expected) : Blames (fail expected : Parser Value) := by
  intro cursor error later run
  cases run
  exact ⟨expected, rfl⟩

theorem blames_current : Blames Parse.current := blames_of_succeeds fun cursor => ⟨_, cursor, rfl⟩

theorem blames_kindAhead (distance : Nat) : Blames (kindAhead distance) :=
  blames_of_succeeds fun cursor => ⟨_, cursor, rfl⟩

theorem blames_offset : Blames offset := blames_of_succeeds fun cursor => ⟨_, cursor, rfl⟩

theorem blames_spanFrom (start : Nat) : Blames (spanFrom start) :=
  blames_of_succeeds fun cursor => ⟨_, cursor, rfl⟩

theorem blames_remaining : Blames remaining := blames_of_succeeds fun cursor => ⟨_, cursor, rfl⟩

theorem blames_atKind (kind : TokenKind) : Blames (atKind kind) :=
  blames_of_succeeds fun cursor => ⟨_, cursor, rfl⟩

theorem blames_advance : Blames advance := blames_of_succeeds fun cursor => ⟨(), cursor.advance, rfl⟩

theorem blames_get : Blames (get : Parser Cursor) :=
  blames_of_succeeds fun cursor => ⟨cursor, cursor, rfl⟩

theorem blames_modify (change : Cursor → Cursor) : Blames (modify change : Parser PUnit) :=
  blames_of_succeeds fun cursor => ⟨⟨⟩, change cursor, rfl⟩

/-- An attempt never fails, whatever becomes of the parser that is tried. -/
theorem blames_attempt (parser : Parser Value) : Blames (attempt parser) := by
  apply blames_of_succeeds
  intro cursor
  rcases run : parser cursor with ⟨error | value, later⟩
  · exact ⟨none, later, by rw [attempt, run]⟩
  · exact ⟨some value, later, by rw [attempt, run]⟩

theorem blames_ite {condition : Prop} [Decidable condition] {first second : Parser Value}
    (holds : Blames first) (fails : Blames second) :
    Blames (if condition then first else second) := by
  split
  · exact holds
  · exact fails

theorem blames_terminal : Blames terminal :=
  blames_current.bind fun token => blames_advance.bind fun _ => blames_pure token.span

theorem blames_expectKind (kind : TokenKind) : Blames (expectKind kind) :=
  (blames_atKind kind).bind fun _ => blames_ite blames_terminal (blames_fail _)

theorem blames_expectKeyword (word : Keyword) : Blames (expectKeyword word) :=
  (blames_atKind _).bind fun _ => blames_ite blames_terminal (blames_fail _)

theorem blames_keyword (word : Keyword) : Blames (keyword? word) :=
  (blames_atKind _).bind fun _ =>
    blames_ite (blames_terminal.bind fun span => blames_pure (some span)) (blames_pure none)

/-- Every parser ends with the span of what it has read. -/
theorem blames_closing (start : Nat) (node : Span → Value) :
    Blames (do let span ← spanFrom start; return node span) :=
  (blames_spanFrom start).bind fun span => blames_pure (node span)

/-! ### Names and lists -/

theorem blames_identifier : Blames identifier := by
  refine blames_current.bind fun token => ?_
  split
  · exact blames_advance.bind fun _ => blames_pure _
  · exact blames_advance.bind fun _ => blames_pure _
  · exact blames_ite (blames_advance.bind fun _ => blames_pure _) (blames_fail _)
  · exact blames_fail _

theorem blames_qualifiedName : Blames qualifiedName := by
  refine blames_offset.bind fun start => blames_identifier.bind fun owner => ?_
  refine (blames_atKind _).bind fun dotted => (blames_kindAhead 1).bind fun following => ?_
  refine blames_ite (blames_advance.bind fun _ => ?_) (blames_pure _)
  exact blames_identifier.bind fun name => blames_closing start _

theorem blames_label : Blames label := blames_identifier.bind fun _ => blames_pure _

theorem blames_itemLabel : Blames itemLabel? := by
  have named : Blames (do let name ← label; return some name) :=
    blames_label.bind fun name => blames_pure (some name)
  refine (blames_atKind _).bind fun led => blames_ite (blames_advance.bind fun _ => named) ?_
  exact (blames_kindAhead 0).bind fun following => blames_ite named (blames_pure none)

theorem blames_commaListUpTo {Item : Type} {item : Parser Item} (each : Blames item)
    (rounds : Nat) : Blames (commaListUpTo item rounds) := by
  induction rounds with
  | zero => exact each.bind fun node => blames_pure [node]
  | succ rounds ih =>
      refine each.bind fun node => (blames_atKind _).bind fun further => ?_
      refine blames_ite (blames_advance.bind fun _ => ?_) (blames_pure [node])
      exact ih.bind fun others => blames_pure (node :: others)

theorem blames_commaList {Item : Type} {item : Parser Item} (each : Blames item) :
    Blames (commaList item) :=
  blames_remaining.bind fun rounds => blames_commaListUpTo each rounds

theorem blames_nameList : Blames nameList :=
  blames_offset.bind fun start => (blames_commaList blames_qualifiedName).bind fun _ =>
    blames_closing start _

/-! ### Data types -/

theorem blames_skipIdentifiers (rounds : Nat) : Blames (skipIdentifiers rounds) := by
  induction rounds with
  | zero => exact blames_pure ()
  | succ rounds ih =>
      exact (blames_atKind _).bind fun found =>
        blames_ite (blames_advance.bind fun _ => ih) (blames_pure ())

theorem blames_dataTypeLength : Blames dataTypeLength := by
  have closes : Blames (do let _ ← expectSymbol .rightParen) :=
    (blames_expectKind _).bind fun _ => blames_pure ()
  refine blames_advance.bind fun _ => (blames_expectKind _).bind fun length => ?_
  refine (blames_atKind _).bind fun scaled => blames_ite ?_ closes
  exact blames_advance.bind fun _ => (blames_expectKind _).bind fun scale => closes

theorem blames_dataType : Blames dataType := by
  refine blames_offset.bind fun start => (blames_atKind _).bind fun found => ?_
  refine blames_ite (blames_remaining.bind fun rounds => ?_) (blames_fail _)
  refine (blames_skipIdentifiers rounds).bind fun _ => (blames_spanFrom start).bind fun name => ?_
  refine (blames_atKind _).bind fun sized => ?_
  exact blames_ite (blames_dataTypeLength.bind fun _ => blames_closing start _)
    (blames_closing start _)

/-- Wherever a nested parser fails, it stands at the token that its error is about. -/
structure Nested.Blames (nested : Nested) : Prop where
  expr (minimum : Nat) : Parse.Blames (nested.expr minimum)
  predicate : Parse.Blames nested.predicate
  bitExpr (minimum : Nat) : Parse.Blames (nested.bitExpr minimum)
  simpleExpr : Parse.Blames nested.simpleExpr
  select : Parse.Blames nested.select

/-! ### Calls -/

theorem blames_subquery (inner : nested.Blames) : Blames (subquery nested) := by
  refine blames_offset.bind fun start => (blames_expectKind _).bind fun opening => ?_
  refine inner.select.bind fun query => (blames_expectKind _).bind fun closing => ?_
  exact blames_closing start _

theorem blames_exprList (inner : nested.Blames) : Blames (exprList nested) :=
  blames_commaList (inner.expr 0)

theorem blames_argumentsUpTo (inner : nested.Blames) (rounds : Nat) :
    Blames (argumentsUpTo nested rounds) := by
  induction rounds with
  | zero => exact (inner.expr 0).bind fun node => blames_pure _
  | succ rounds ih =>
      refine (inner.expr 0).bind fun node => (blames_atKind _).bind fun further => ?_
      refine blames_ite (blames_terminal.bind fun comma => ?_) (blames_pure _)
      exact ih.bind fun others => blames_pure _

theorem blames_aggregationArguments (inner : nested.Blames) :
    Blames (aggregationArguments nested) := by
  refine (blames_atKind _).bind fun all => blames_ite ?_ ?_
  · exact blames_terminal.bind fun star => blames_pure _
  · refine (blames_atKind _).bind fun none => blames_ite (blames_pure []) ?_
    exact blames_remaining.bind fun rounds => blames_argumentsUpTo inner rounds

theorem blames_aggregationCall (inner : nested.Blames) : Blames (aggregationCall nested) := by
  refine blames_offset.bind fun start => blames_terminal.bind fun name => ?_
  refine (blames_expectKind _).bind fun opening => (blames_keyword _).bind fun distinct => ?_
  refine (blames_aggregationArguments inner).bind fun arguments => ?_
  exact (blames_expectKind _).bind fun closing => blames_closing start _

theorem blames_castCall (inner : nested.Blames) : Blames (castCall nested) := by
  refine blames_offset.bind fun start => blames_advance.bind fun _ => ?_
  refine (blames_expectKind _).bind fun opening => (inner.expr 0).bind fun operand => ?_
  refine (blames_expectKeyword _).bind fun word => blames_dataType.bind fun target => ?_
  exact (blames_expectKind _).bind fun closing => blames_closing start _

theorem blames_argumentAfter (inner : nested.Blames) (word : Keyword) :
    Blames (argumentAfter? nested word) := by
  refine (blames_atKind _).bind fun worded => (blames_atKind _).bind fun separated => ?_
  refine blames_ite (blames_advance.bind fun _ => ?_) (blames_pure none)
  exact (inner.expr 0).bind fun node => blames_pure (some node)

theorem blames_substringCall (inner : nested.Blames) : Blames (substringCall nested) := by
  refine blames_offset.bind fun start => blames_advance.bind fun _ => ?_
  refine (blames_expectKind _).bind fun opening => (inner.expr 0).bind fun source => ?_
  refine (blames_argumentAfter inner _).bind fun second => ?_
  have closes (third : Option Expr) : Blames
      (do let _ ← expectSymbol .rightParen; let span ← spanFrom start
          return SpecialCall.substring span (source :: second.toList ++ third.toList)) :=
    (blames_expectKind _).bind fun _ => blames_closing start _
  exact blames_ite ((blames_argumentAfter inner _).bind closes) ((blames_pure none).bind closes)

theorem blames_extractCall (inner : nested.Blames) : Blames (extractCall nested) := by
  refine blames_offset.bind fun start => blames_advance.bind fun _ => ?_
  refine (blames_expectKind _).bind fun opening => blames_identifier.bind fun field => ?_
  refine (blames_expectKeyword _).bind fun word => (inner.expr 0).bind fun source => ?_
  exact (blames_expectKind _).bind fun closing => blames_closing start _

theorem blames_skipTrimSide : Blames skipTrimSide := by
  refine (blames_kindAhead 0).bind fun kind => ?_
  split
  all_goals first | exact blames_advance | exact blames_pure ()

theorem blames_trimmed (inner : nested.Blames) : Blames (trimmed? nested) := by
  refine (blames_kindAhead 0).bind fun kind => ?_
  split
  · exact blames_pure none
  · exact blames_pure none
  · exact (inner.expr 0).bind fun node => blames_pure (some node)

theorem blames_trimSource (inner : nested.Blames) : Blames (trimSource? nested) := by
  refine (blames_atKind _).bind fun led => blames_ite ?_ (blames_pure none)
  exact blames_advance.bind fun _ => (inner.expr 0).bind fun node => blames_pure (some node)

theorem blames_trimCall (inner : nested.Blames) : Blames (trimCall nested) := by
  refine blames_offset.bind fun start => blames_advance.bind fun _ => ?_
  refine (blames_expectKind _).bind fun opening => blames_skipTrimSide.bind fun _ => ?_
  refine (blames_trimmed inner).bind fun trimmed => (blames_trimSource inner).bind fun source => ?_
  exact (blames_expectKind _).bind fun closing => blames_closing start _

theorem blames_regularArguments (inner : nested.Blames) : Blames (regularArguments nested) := by
  refine (blames_atKind _).bind fun all => blames_ite ?_ ?_
  · exact blames_terminal.bind fun star => blames_pure _
  · refine (blames_atKind _).bind fun none => blames_ite (blames_pure _) ?_
    exact (blames_exprList inner).bind fun arguments => blames_pure _

theorem blames_regularCall (inner : nested.Blames) : Blames (regularCall nested) := by
  refine blames_offset.bind fun start => blames_identifier.bind fun name => ?_
  refine (blames_expectKind _).bind fun opening => ?_
  refine (blames_regularArguments inner).bind fun nodes => ?_
  exact (blames_expectKind _).bind fun closing => blames_closing start _

/-! ### Simple expressions -/

theorem blames_literal : Blames literal :=
  (blames_kindAhead 0).bind fun _ => blames_terminal.bind fun _ => blames_pure _

theorem blames_negativeNumber : Blames negativeNumber :=
  blames_offset.bind fun start => blames_advance.bind fun _ => blames_advance.bind fun _ =>
    blames_closing start _

theorem blames_existence (inner : nested.Blames) : Blames (existence nested) :=
  blames_offset.bind fun start => blames_terminal.bind fun _ =>
    (blames_subquery inner).bind fun _ => blames_closing start _

theorem blames_row (inner : nested.Blames) : Blames (row nested) := by
  refine blames_offset.bind fun start => blames_advance.bind fun _ => ?_
  refine (blames_exprList inner).bind fun items => (blames_expectKind _).bind fun closing => ?_
  exact blames_closing start _

theorem blames_caseBranch (inner : nested.Blames) : Blames (caseBranch nested) := by
  refine blames_offset.bind fun start => blames_advance.bind fun _ => ?_
  refine (inner.expr 0).bind fun condition => (blames_expectKeyword _).bind fun word => ?_
  exact (inner.expr 0).bind fun result => blames_closing start _

theorem blames_caseBranchesUpTo (inner : nested.Blames) (rounds : Nat) :
    Blames (caseBranchesUpTo nested rounds) := by
  induction rounds with
  | zero => exact blames_pure []
  | succ rounds ih =>
      refine (blames_atKind _).bind fun found => blames_ite ?_ (blames_pure [])
      exact (blames_caseBranch inner).bind fun branch => ih.bind fun others => blames_pure _

theorem blames_caseOperand (inner : nested.Blames) : Blames (caseOperand? nested) :=
  (blames_atKind _).bind fun _ =>
    blames_ite (blames_pure none) (inner.simpleExpr.bind fun operand => blames_pure (some operand))

theorem blames_otherwise (inner : nested.Blames) : Blames (otherwise? nested) := by
  refine (blames_atKind _).bind fun led => blames_ite ?_ (blames_pure none)
  exact blames_advance.bind fun _ => (inner.expr 0).bind fun result => blames_pure (some result)

theorem blames_caseExpr (inner : nested.Blames) : Blames (caseExpr nested) := by
  refine blames_offset.bind fun start => blames_advance.bind fun _ => ?_
  refine (blames_caseOperand inner).bind fun operand => blames_remaining.bind fun rounds => ?_
  refine (blames_caseBranchesUpTo inner rounds).bind fun branches => ?_
  refine blames_ite (blames_fail _) ((blames_otherwise inner).bind fun otherwise => ?_)
  exact (blames_expectKeyword _).bind fun closing => blames_closing start _

theorem blames_unary (inner : nested.Blames) : Blames (unary nested) :=
  blames_offset.bind fun start => blames_terminal.bind fun _ =>
    inner.simpleExpr.bind fun _ => blames_closing start _

theorem blames_nameOrCall (inner : nested.Blames) : Blames (nameOrCall nested) := by
  refine blames_current.bind fun token => (blames_kindAhead 1).bind fun following => ?_
  refine blames_ite (blames_ite ?_ ?_) ?_
  · exact (blames_aggregationCall inner).bind fun call => blames_pure _
  · exact (blames_regularCall inner).bind fun call => blames_pure _
  · exact blames_qualifiedName.bind fun name => blames_pure _

theorem blames_specialCall (inner : nested.Blames) (word : Keyword) :
    Blames (specialCall nested word) := by
  refine (blames_kindAhead 1).bind fun following => blames_ite ?_ (blames_fail _)
  split
  · exact (blames_castCall inner).bind fun call => blames_pure _
  · exact (blames_substringCall inner).bind fun call => blames_pure _
  · exact (blames_extractCall inner).bind fun call => blames_pure _
  · exact (blames_trimCall inner).bind fun call => blames_pure _

theorem blames_parenthesis (inner : nested.Blames) : Blames (parenthesis nested) :=
  (blames_kindAhead 1).bind fun _ =>
    blames_ite ((blames_subquery inner).bind fun _ => blames_pure _) (blames_row inner)

theorem blames_minus (inner : nested.Blames) : Blames (minus nested) :=
  (blames_kindAhead 1).bind fun _ => blames_ite blames_negativeNumber (blames_unary inner)

theorem blames_simpleExpr (inner : nested.Blames) : Blames (simpleExpr nested) := by
  refine (blames_kindAhead 0).bind fun kind => ?_
  split
  case h_1 => exact blames_terminal.bind fun span => blames_pure _
  case h_2 => exact blames_minus inner
  case h_3 => exact blames_parenthesis inner
  -- signs
  iterate 4 exact blames_unary inner
  -- literals
  iterate 7 exact blames_literal
  case h_15 => exact blames_existence inner
  case h_16 => exact blames_caseExpr inner
  -- calls of functions with a grammar of their own
  iterate 4 exact blames_specialCall inner _
  case h_21 => exact blames_ite (blames_nameOrCall inner) (blames_fail _)
  case h_22 => exact blames_nameOrCall inner
  case h_23 => exact blames_nameOrCall inner
  case h_24 => exact blames_fail _

/-! ### Bit expressions and predicates -/

theorem blames_bitChain (inner : nested.Blames) (start minimum rounds : Nat) (left : BitExpr) :
    Blames (bitChain nested start minimum rounds left) := by
  induction rounds generalizing left with
  | zero => exact blames_pure left
  | succ rounds ih =>
      refine (blames_kindAhead 0).bind fun kind => ?_
      split
      · exact blames_pure left
      · refine blames_ite (blames_pure left) (blames_terminal.bind fun operator => ?_)
        refine (inner.bitExpr _).bind fun right => (blames_spanFrom start).bind fun span => ?_
        exact ih _

theorem blames_bitExpr (inner : nested.Blames) (minimum : Nat) :
    Blames (bitExpr nested minimum) :=
  blames_offset.bind fun start => (blames_simpleExpr inner).bind fun _ =>
    blames_remaining.bind fun rounds => blames_bitChain inner start minimum rounds _

theorem blames_predicateNegation : Blames predicateNegation? := by
  refine (blames_atKind _).bind fun negated => (blames_kindAhead 1).bind fun following => ?_
  have taken : Blames (if negated then do let span ← terminal; return some span else return none) :=
    blames_ite (blames_terminal.bind fun span => blames_pure (some span)) (blames_pure none)
  split
  · exact taken
  · exact taken
  · exact taken
  · exact blames_pure none

section
variable (start : Nat) (operand : BitExpr) (negation : Option Span)

theorem blames_membership (inner : nested.Blames) :
    Blames (membership nested start operand negation) := by
  refine blames_advance.bind fun _ => (blames_atKind _).bind fun opened => ?_
  refine (blames_kindAhead 1).bind fun following => blames_ite ?_ ?_
  · exact (blames_subquery inner).bind fun query => blames_closing start _
  · refine (blames_expectKind _).bind fun opening => (blames_exprList inner).bind fun items => ?_
    exact (blames_expectKind _).bind fun closing => blames_closing start _

theorem blames_range (inner : nested.Blames) : Blames (range nested start operand negation) := by
  refine blames_advance.bind fun _ => (inner.bitExpr 0).bind fun lower => ?_
  refine (blames_expectKeyword _).bind fun word => inner.predicate.bind fun upper => ?_
  exact blames_closing start _

theorem blames_escape (inner : nested.Blames) : Blames (escape? nested) := by
  refine (blames_atKind _).bind fun led => blames_ite ?_ (blames_pure none)
  exact blames_advance.bind fun _ => inner.simpleExpr.bind fun escape => blames_pure (some escape)

theorem blames_pattern (inner : nested.Blames) :
    Blames (pattern nested start operand negation) := by
  refine blames_advance.bind fun _ => inner.simpleExpr.bind fun text => ?_
  exact (blames_escape inner).bind fun escape => blames_closing start _

end

theorem blames_predicate (inner : nested.Blames) : Blames (predicate nested) := by
  refine blames_offset.bind fun start => (blames_bitExpr inner 0).bind fun operand => ?_
  refine blames_predicateNegation.bind fun negation => (blames_kindAhead 0).bind fun kind => ?_
  split
  · exact blames_membership start operand negation inner
  · exact blames_range start operand negation inner
  · exact blames_pattern start operand negation inner
  · exact blames_pure _

/-! ### Comparisons and connectives -/

theorem blames_truthTest (start : Nat) (operand : BooleanPrimary) :
    Blames (truthTest start operand) := by
  refine blames_advance.bind fun _ => (blames_keyword _).bind fun negation => ?_
  refine (blames_kindAhead 0).bind fun kind => ?_
  split
  all_goals first
    | exact blames_fail _
    | exact blames_terminal.bind fun value => blames_closing start _

theorem blames_comparison (inner : nested.Blames) (start : Nat) (left : BooleanPrimary) :
    Blames (comparison nested start left) := by
  refine blames_terminal.bind fun operator => (blames_kindAhead 0).bind fun kind => ?_
  have quantified : Blames (do
      let quantifier ← terminal
      let query ← subquery nested
      let span ← spanFrom start
      return BooleanPrimary.quantified span left operator quantifier query) :=
    blames_terminal.bind fun quantifier => (blames_subquery inner).bind fun query =>
      blames_closing start _
  split
  · exact quantified
  · exact quantified
  · exact quantified
  · exact inner.predicate.bind fun right => blames_closing start _

theorem blames_primaryChain (inner : nested.Blames) (start rounds : Nat) (left : BooleanPrimary) :
    Blames (primaryChain nested start rounds left) := by
  induction rounds generalizing left with
  | zero => exact blames_pure left
  | succ rounds ih =>
      refine (blames_kindAhead 0).bind fun kind => blames_ite ?_ (blames_ite ?_ (blames_pure left))
      · exact (blames_truthTest start left).bind fun test => ih test
      · exact (blames_comparison inner start left).bind fun compared => ih compared

theorem blames_booleanPrimary (inner : nested.Blames) : Blames (booleanPrimary nested) :=
  blames_offset.bind fun start => (blames_predicate inner).bind fun _ =>
    blames_remaining.bind fun rounds => blames_primaryChain inner start rounds _

/-- A trial that is given up leaves no error behind. -/
theorem blames_parenthesised (retry : Retry) : Blames (parenthesised? retry nested) := by
  refine blames_get.bind fun before => blames_ite (blames_pure none) ?_
  refine (blames_attempt _).bind fun found => ?_
  split
  · exact blames_pure _
  · exact (blames_modify _).bind fun _ => blames_pure none

theorem blames_primaryExpr (inner : nested.Blames) : Blames (primaryExpr nested) :=
  (blames_booleanPrimary inner).bind fun _ => blames_pure _

theorem blames_operand (inner : nested.Blames) (retry : Retry) :
    Blames (operand retry nested) := by
  have negates : Blames (negated nested) :=
    blames_offset.bind fun start => blames_terminal.bind fun operator =>
      (inner.expr _).bind fun operand => blames_closing start _
  refine (blames_kindAhead 0).bind fun kind => ?_
  split
  · exact negates
  · exact negates
  · refine (blames_kindAhead 1).bind fun following => blames_ite (blames_primaryExpr inner) ?_
    refine (blames_parenthesised retry).bind fun found => ?_
    cases found with
    | some node => exact blames_pure node
    | none => exact blames_primaryExpr inner
  · exact blames_primaryExpr inner

theorem blames_logicalChain (inner : nested.Blames) (start minimum rounds : Nat) (left : Expr) :
    Blames (logicalChain nested start minimum rounds left) := by
  induction rounds generalizing left with
  | zero => exact blames_pure left
  | succ rounds ih =>
      refine (blames_kindAhead 0).bind fun kind => ?_
      split
      · exact blames_pure left
      · refine blames_ite (blames_pure left) (blames_terminal.bind fun operator => ?_)
        refine (inner.expr _).bind fun right => (blames_spanFrom start).bind fun span => ?_
        exact blames_ite (ih _) (ih _)

theorem blames_expr (inner : nested.Blames) (retry : Retry) (minimum : Nat) :
    Blames (expr retry nested minimum) :=
  blames_offset.bind fun start => (blames_operand inner retry).bind fun left =>
    blames_remaining.bind fun rounds => blames_logicalChain inner start minimum rounds left

/-! ### Items, clauses and statements -/

theorem blames_selectItem (inner : nested.Blames) : Blames (selectItem nested) := by
  refine (blames_kindAhead 0).bind fun kind => (blames_kindAhead 1).bind fun following => ?_
  refine (blames_kindAhead 2).bind fun third => blames_ite ?_ (blames_ite ?_ ?_)
  · exact blames_terminal.bind fun star => blames_pure _
  · refine blames_offset.bind fun start => blames_label.bind fun owner => ?_
    exact blames_advance.bind fun _ => blames_advance.bind fun _ => blames_closing start _
  · refine blames_offset.bind fun start => (inner.expr 0).bind fun node => ?_
    exact blames_itemLabel.bind fun itemLabel => blames_closing start _

theorem blames_selectList (inner : nested.Blames) : Blames (selectList nested) :=
  blames_offset.bind fun start => (blames_commaList (blames_selectItem inner)).bind fun _ =>
    blames_closing start _

theorem blames_orderColumn : Blames orderColumn? := by
  refine blames_get.bind fun before => blames_ite ?_ (blames_pure none)
  refine blames_qualifiedName.bind fun name => (blames_kindAhead 0).bind fun following => ?_
  exact blames_ite (blames_pure _) ((blames_modify _).bind fun _ => blames_pure none)

theorem blames_orderTarget (inner : nested.Blames) : Blames (orderTarget nested) := by
  refine (blames_kindAhead 0).bind fun kind => (blames_kindAhead 1).bind fun following => ?_
  refine blames_ite (blames_terminal.bind fun number => blames_pure _) ?_
  refine blames_orderColumn.bind fun found => ?_
  cases found with
  | some column => exact blames_pure _
  | none => exact (inner.expr 0).bind fun node => blames_pure _

theorem blames_direction : Blames direction := by
  refine (blames_keyword _).bind fun ascending => ?_
  cases ascending with
  | some span => exact blames_pure _
  | none => exact (blames_keyword _).bind fun descending => blames_pure _

theorem blames_orderItem (inner : nested.Blames) : Blames (orderItem nested) :=
  blames_offset.bind fun start => (blames_orderTarget inner).bind fun _ =>
    blames_direction.bind fun _ => blames_closing start _

theorem blames_orderClause (inner : nested.Blames) (word : Keyword) :
    Blames (orderClause? nested word) := by
  refine (blames_atKind _).bind fun found => blames_ite ?_ (blames_pure none)
  refine blames_offset.bind fun start => blames_advance.bind fun _ => ?_
  refine (blames_expectKeyword _).bind fun byWord => ?_
  exact (blames_commaList (blames_orderItem inner)).bind fun items => blames_closing start _

theorem blames_conditionClause (inner : nested.Blames) (word : Keyword) :
    Blames (conditionClause? nested word) := by
  refine (blames_atKind _).bind fun found => blames_ite ?_ (blames_pure none)
  refine blames_offset.bind fun start => blames_advance.bind fun _ => ?_
  exact (inner.expr 0).bind fun node => blames_closing start _

theorem blames_tables : Blames tables? := by
  refine (blames_atKind _).bind fun found => blames_ite ?_ (blames_pure none)
  exact blames_advance.bind fun _ => blames_nameList.bind fun names => blames_pure _

theorem blames_distinct : Blames distinct? := by
  refine (blames_keyword _).bind fun distinct => ?_
  cases distinct with
  | some span => exact blames_pure _
  | none => exact (blames_keyword _).bind fun all => blames_pure none

theorem blames_select (inner : nested.Blames) : Blames (select nested) := by
  refine blames_offset.bind fun start => (blames_expectKeyword _).bind fun word => ?_
  refine blames_distinct.bind fun distinct => (blames_selectList inner).bind fun items => ?_
  refine blames_tables.bind fun tables => (blames_conditionClause inner _).bind fun condition => ?_
  refine (blames_orderClause inner _).bind fun grouping => ?_
  refine (blames_conditionClause inner _).bind fun having => ?_
  exact (blames_orderClause inner _).bind fun ordering => blames_closing start _

/-- By induction on the depth; below the last one every part fails where it stands. -/
theorem nested_blames (retry : Retry) (depth : Nat) : (Parse.nested retry depth).Blames := by
  induction depth with
  | zero =>
      exact ⟨fun _ => blames_fail _, blames_fail _, fun _ => blames_fail _, blames_fail _,
        blames_fail _⟩
  | succ depth inner =>
      exact ⟨blames_expr inner retry, blames_predicate inner, blames_bitExpr inner,
        blames_simpleExpr inner, blames_select inner⟩

theorem blames_statementWith (retry : Retry) : Blames (statementWith retry) := by
  have finishes (tree : Select) :
      Blames (do if ← atKind .endOfInput then return tree else fail .endOfInput) :=
    (blames_atKind _).bind fun _ => blames_ite (blames_pure tree) (blames_fail _)
  refine blames_remaining.bind fun depth => ?_
  refine (blames_select (nested_blames retry depth)).bind fun tree => ?_
  refine (blames_atKind _).bind fun semicolon => blames_ite ?_ (finishes tree)
  exact blames_advance.bind fun _ => finishes tree

end AnnotatedSql.Grammar.Parse
