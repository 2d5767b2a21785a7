/-
This file shows that expressions are parsed alike in a whole text and in a part of it.
-/

import AnnotatedSql.Proofs.Grammar.Locality.Call

namespace AnnotatedSql.Grammar.Parse

variable {cut : Cut} {least bound : Nat} {first second : Nested}

theorem continuesOperand_of_endsClause {kind : TokenKind} (ends : endsClause 1 kind) :
    Precedence.continuesOperand kind = false := by
  rcases kind_of_endsClause ends with rfl | rfl | rfl | rfl | rfl | rfl | rfl <;> rfl

theorem bit_of_endsClause {kind : TokenKind} (ends : endsClause 1 kind) :
    Precedence.bit? kind = none := by
  rcases kind_of_endsClause ends with rfl | rfl | rfl | rfl | rfl | rfl | rfl <;> rfl

/-! ### Simple expressions -/

theorem Literal.relocate_literalOf (move : Nat → Nat) (kind : TokenKind) (span : Span) :
    literalOf kind (span.relocate move) = (literalOf kind span).relocate move := by
  unfold literalOf
  split <;> rfl

theorem literal_mirrors (some : 1 ≤ least) :
    Mirrors cut least (bound + 1) bound literal literal (SimpleExpr.relocate cut.move) := by
  refine mirrors_kindAhead_bind_inside some fun kind => (mirrors_terminal some).bind fun span => ?_
  exact mirrors_pure (congrArg SimpleExpr.literal (Literal.relocate_literalOf _ kind span))

theorem negativeNumber_mirrors (some : 2 ≤ least) :
    Mirrors cut least bound bound negativeNumber negativeNumber (SimpleExpr.relocate cut.move) := by
  refine mirrors_offset_bind (Nat.le_of_succ_le some) fun start => ?_
  refine (mirrors_advance_bind (Nat.le_of_succ_le some) ?_).here
  refine (mirrors_advance_bind (Nat.le_sub_one_of_lt some) ?_).here
  refine (mirrors_spanFrom start).bind fun span => mirrors_pure ?_
  exact congrArg SimpleExpr.literal (Literal.relocate_literalOf _ .number span)

theorem marker_mirrors (some : 1 ≤ least) :
    Mirrors cut least (bound + 1) bound marker marker (SimpleExpr.relocate cut.move) :=
  (mirrors_terminal some).bind fun _ => mirrors_pure rfl

theorem existence_mirrors (inner : Nested.Mirrors cut bound first second) (some : 1 ≤ least) :
    Mirrors cut least (bound + 1) bound (existence first) (existence second)
      (SimpleExpr.relocate cut.move) := by
  refine mirrors_offset_bind some fun start => (mirrors_terminal some).bind fun word => ?_
  refine (subquery_mirrors inner).here.bind fun query => ?_
  exact (mirrors_spanFrom start).bind fun span => mirrors_pure rfl

theorem bareSubquery_mirrors (inner : Nested.Mirrors cut bound first second) :
    Mirrors cut least (bound + 1) bound (bareSubquery first) (bareSubquery second)
      (SimpleExpr.relocate cut.move) :=
  (subquery_mirrors inner).bind fun query => mirrors_pure (by simp [SimpleExpr.relocate])

theorem row_mirrors (inner : Nested.Mirrors cut bound first second) (some : 1 ≤ least) :
    Mirrors cut least (bound + 1) bound (row first) (row second)
      (SimpleExpr.relocate cut.move) := by
  refine mirrors_offset_bind some fun start => (mirrors_advance some).bind fun _ => ?_
  refine (exprList_mirrors inner).bind fun items => (mirrors_expectSymbol _).here.bind fun _ => ?_
  refine (mirrors_spanFrom start).bind fun span => mirrors_pure ?_
  simp [SimpleExpr.relocate]

theorem caseBranch_mirrors {size : Nat} (inner : Nested.Mirrors cut bound first second)
    (few : size ≤ bound) (some : 1 ≤ least) :
    Mirrors cut least (size + 1) size (caseBranch first) (caseBranch second)
      (CaseBranch.relocate cut.move) := by
  refine mirrors_offset_bind some fun start => (mirrors_advance some).bind fun _ => ?_
  refine ((inner.expr 0).fewer few).bind fun condition => ?_
  refine (mirrors_expectKeyword _).here.bind fun word => ?_
  refine ((inner.expr 0).fewer few).bind fun result => ?_
  exact (mirrors_spanFrom start).bind fun span => mirrors_pure rfl

theorem caseBranchesUpTo_mirrors (inner : Nested.Mirrors cut bound first second)
    {size rounds : Nat} (few : size ≤ bound) (enough : size ≤ rounds) :
    Mirrors cut least size size (caseBranchesUpTo first rounds) (caseBranchesUpTo second size)
      (List.map (CaseBranch.relocate cut.move)) := by
  induction size generalizing rounds least with
  | zero =>
      cases rounds with
      | zero => exact mirrors_pure rfl
      | succ rounds => exact mirrors_atKind_atEnd rfl (mirrors_pure rfl)
  | succ size ih =>
      obtain ⟨rounds, rfl⟩ := Nat.exists_eq_succ_of_ne_zero (Nat.ne_zero_of_lt enough)
      refine mirrors_atKind_ite rfl ?_ (mirrors_pure rfl)
      have branch := caseBranch_mirrors inner (Nat.le_of_succ_le few) (Nat.le_max_right least 1)
      refine branch.bind fun branch => ?_
      exact (ih (by omega) (by omega)).wide.bind fun others => mirrors_pure rfl

theorem caseOperand_mirrors (inner : Nested.Mirrors cut bound first second) :
    Mirrors cut 0 bound bound (caseOperand? first) (caseOperand? second)
      (Option.map (SimpleExpr.relocate cut.move)) := by
  refine mirrors_atKind_ite rfl (mirrors_pure rfl) ?_
  exact inner.simpleExpr.bind fun operand => mirrors_pure rfl

theorem otherwise_mirrors (inner : Nested.Mirrors cut bound first second) :
    Mirrors cut 0 bound bound (otherwise? first) (otherwise? second)
      (Option.map (Expr.relocate cut.move)) := by
  refine mirrors_atKind_ite rfl ?_ (mirrors_pure rfl)
  refine (mirrors_advance (Nat.le_max_right ..)).here.bind fun _ => ?_
  exact (inner.expr 0).bind fun result => mirrors_pure rfl

theorem caseExpr_mirrors (inner : Nested.Mirrors cut bound first second) (some : 1 ≤ least) :
    Mirrors cut least (bound + 1) bound (caseExpr first) (caseExpr second)
      (SimpleExpr.relocate cut.move) := by
  refine mirrors_offset_bind some fun start => (mirrors_advance some).bind fun _ => ?_
  refine (caseOperand_mirrors inner).bind fun operand => ?_
  refine mirrors_remaining_bind fun size few rounds enough => ?_
  refine ((caseBranchesUpTo_mirrors inner few enough).mono (Nat.le_refl _) (Nat.le_refl _) few).bind
    fun branches => ?_
  rw [List.isEmpty_map]
  refine mirrors_ite (fun _ => mirrors_fail _) fun _ => ?_
  refine (otherwise_mirrors inner).bind fun otherwise => ?_
  refine (mirrors_expectKeyword _).here.bind fun closing => ?_
  refine (mirrors_spanFrom start).bind fun span => mirrors_pure ?_
  simp [SimpleExpr.relocate]

theorem unary_mirrors (inner : Nested.Mirrors cut bound first second) (some : 1 ≤ least) :
    Mirrors cut least (bound + 1) bound (unary first) (unary second)
      (SimpleExpr.relocate cut.move) := by
  refine mirrors_offset_bind some fun start => (mirrors_terminal some).bind fun operator => ?_
  refine inner.simpleExpr.bind fun operand => ?_
  exact (mirrors_spanFrom start).bind fun span => mirrors_pure rfl

theorem aggregation_mirrors (inner : Nested.Mirrors cut bound first second) (some : 1 ≤ least) :
    Mirrors cut least (bound + 1) bound (aggregation first) (aggregation second)
      (SimpleExpr.relocate cut.move) :=
  (aggregationCall_mirrors inner some).bind fun call =>
    mirrors_pure (by simp [SimpleExpr.relocate, FunctionCall.relocate])

theorem regular_mirrors (inner : Nested.Mirrors cut bound first second) (some : 1 ≤ least) :
    Mirrors cut least (bound + 1) bound (regular first) (regular second)
      (SimpleExpr.relocate cut.move) :=
  (regularCall_mirrors inner some).bind fun call =>
    mirrors_pure (by simp [SimpleExpr.relocate, FunctionCall.relocate])

theorem special_relocate (move : Nat → Nat) (call : SpecialCall) :
    special (call.relocate move) = (special call).relocate move := by
  simp [special, SimpleExpr.relocate, FunctionCall.relocate]

theorem nameOrCall_mirrors (inner : Nested.Mirrors cut bound first second) (some : 1 ≤ least) :
    Mirrors cut least (bound + 1) bound (nameOrCall first) (nameOrCall second)
      (SimpleExpr.relocate cut.move) := by
  refine mirrors_current_bind some fun token own alike => ?_
  rw [alike.namesAggregate]
  have named (least : Nat) : Mirrors cut least (bound + 1) bound
      (do let name ← qualifiedName; return SimpleExpr.column name)
      (do let name ← qualifiedName; return SimpleExpr.column name)
      (SimpleExpr.relocate cut.move) := qualifiedName_mirrors.bind fun name => mirrors_pure rfl
  refine mirrors_kindAhead_bind some (fun kind enough _ fewest => ?_) fun kind ends => ?_
  · have some := Nat.le_trans some fewest
    refine mirrors_ite (fun _ => ?_) fun _ => named enough
    exact mirrors_ite (fun _ => aggregation_mirrors inner some) fun _ => regular_mirrors inner some
  · rw [if_neg (ne_of_endsClause ends rfl)]
    rfl

theorem specialCall_mirrors (inner : Nested.Mirrors cut bound first second) (some : 1 ≤ least)
    (word : Keyword) :
    Mirrors cut least (bound + 1) bound (specialCall first word) (specialCall second word)
      (SimpleExpr.relocate cut.move) := by
  have taken {least : Nat} {call other : Parser SpecialCall}
      (mirrors : Mirrors cut least (bound + 1) bound call other (SpecialCall.relocate cut.move)) :
      Mirrors cut least (bound + 1) bound (special <$> call) (special <$> other)
        (SimpleExpr.relocate cut.move) :=
    mirrors.bind fun call => mirrors_pure (special_relocate cut.move call)
  refine mirrors_kindAhead_bind some (fun kind enough _ fewest => ?_) fun kind ends => ?_
  · have some := Nat.le_trans some fewest
    refine mirrors_ite (fun _ => ?_) fun _ => mirrors_fail _
    split
    · refine (castCall_mirrors inner some).bind fun call => mirrors_pure ?_
      rw [← special_relocate, SpecialCall.relocate]
    · exact taken (substringCall_mirrors inner some)
    · exact taken (extractCall_mirrors inner some)
    · exact taken (trimCall_mirrors inner some)
  · rw [if_neg (ne_of_endsClause ends rfl)]
    rfl

theorem parenthesis_mirrors (inner : Nested.Mirrors cut bound first second) (some : 1 ≤ least) :
    Mirrors cut least (bound + 1) bound (parenthesis first) (parenthesis second)
      (SimpleExpr.relocate cut.move) := by
  refine mirrors_kindAhead_bind some (fun kind enough _ fewest => ?_) fun kind ends => ?_
  · exact mirrors_ite (fun _ => bareSubquery_mirrors inner) fun _ =>
      row_mirrors inner (Nat.le_trans some fewest)
  · rw [if_neg (ne_of_endsClause ends rfl)]
    rfl

theorem minus_mirrors (inner : Nested.Mirrors cut bound first second) (some : 1 ≤ least) :
    Mirrors cut least (bound + 1) (bound + 1) (minus first) (minus second)
      (SimpleExpr.relocate cut.move) := by
  refine mirrors_kindAhead_bind some (fun kind enough more fewest => ?_) fun kind ends => ?_
  · refine mirrors_ite (fun number => ?_) fun _ =>
      (unary_mirrors inner (Nat.le_trans some fewest)).wide
    rw [number] at more
    exact negativeNumber_mirrors (more nofun)
  · rw [if_neg (ne_of_endsClause ends rfl)]
    rfl

theorem simpleExpr_mirrors (inner : Nested.Mirrors cut bound first second) :
    Mirrors cut 0 (bound + 1) (bound + 1) (simpleExpr first) (simpleExpr second)
      (SimpleExpr.relocate cut.move) := by
  have fails : FailsAtEnd .expression (fail .expression : Parser SimpleExpr) := failsAtEnd_fail
  refine mirrors_kindAhead_bind_of_fails (fun kind enough some _ => ?_) fails
  split
  case h_1 => exact (marker_mirrors (some nofun)).wide
  case h_2 => exact minus_mirrors inner (some nofun)
  case h_3 => exact (parenthesis_mirrors inner (some nofun)).wide
  -- signs
  iterate 4 exact (unary_mirrors inner (some nofun)).wide
  -- literals
  iterate 7 exact (literal_mirrors (some nofun)).wide
  case h_15 => exact (existence_mirrors inner (some nofun)).wide
  case h_16 => exact (caseExpr_mirrors inner (some nofun)).wide
  -- calls of functions with a grammar of their own
  iterate 4 exact (specialCall_mirrors inner (some nofun) _).wide
  case h_21 =>
    exact mirrors_ite (fun _ => (nameOrCall_mirrors inner (some nofun)).wide) fun _ => mirrors_fail _
  case h_22 => exact (nameOrCall_mirrors inner (some nofun)).wide
  case h_23 => exact (nameOrCall_mirrors inner (some nofun)).wide
  case h_24 => exact mirrors_fail _

/-! ### Bit expressions and predicates -/

theorem bitChain_mirrors (inner : Nested.Mirrors cut bound first second) (start minimum : Nat)
    {size rounds : Nat} (few : size ≤ bound + 1) (enough : size ≤ rounds) (left : BitExpr) :
    Mirrors cut 0 size size
      (bitChain first (cut.move start) minimum rounds (left.relocate cut.move))
      (bitChain second start minimum size left) (BitExpr.relocate cut.move) := by
  induction size generalizing rounds left with
  | zero =>
      cases rounds with
      | zero => exact mirrors_pure rfl
      | succ rounds =>
          refine mirrors_kindAhead_atEnd fun kind ends => ?_
          rw [bit_of_endsClause ends]
          exact mirrors_pure rfl
  | succ size ih =>
      obtain ⟨rounds, rfl⟩ := Nat.exists_eq_succ_of_ne_zero (Nat.ne_zero_of_lt enough)
      refine mirrors_kindAhead_bind (Nat.zero_le _) (fun kind fewest some _ => ?_) fun kind ends => ?_
      · split
        case h_1 => exact mirrors_pure rfl
        case h_2 level found =>
            refine mirrors_ite (fun _ => mirrors_pure rfl) fun _ => ?_
            have more : kind ≠ .endOfInput := by
              rintro rfl
              cases found
            refine (mirrors_terminal (some more)).bind fun operator => ?_
            refine ((inner.bitExpr _).fewer (by omega)).bind fun right => ?_
            refine (mirrors_spanFrom start).bind fun span => ?_
            exact (ih (by omega) (by omega) (.binary span left operator right)).wide
      · rw [bit_of_endsClause ends]
        rfl

theorem bitExpr_failsAtEnd (nested : Nested) (minimum : Nat) :
    FailsAtEnd .expression (bitExpr nested minimum) := fun _ => bitExpr_atEnd nested minimum

theorem bitExpr_mirrors (inner : Nested.Mirrors cut bound first second) (minimum : Nat) :
    Mirrors cut 0 (bound + 1) (bound + 1) (bitExpr first minimum) (bitExpr second minimum)
      (BitExpr.relocate cut.move) := by
  refine Mirrors.lift ?_ (bitExpr_failsAtEnd _ minimum) (bitExpr_failsAtEnd _ minimum)
  refine mirrors_offset_bind (Nat.le_refl 1) fun start => ?_
  refine (simpleExpr_mirrors inner).anywhere.bind fun operand => ?_
  refine mirrors_remaining_bind fun size few rounds enough => ?_
  exact (bitChain_mirrors inner start minimum few enough (.simple operand)).mono (Nat.le_refl _)
    (Nat.le_refl _) few

theorem predicateNegation_mirrors :
    Mirrors cut 0 bound bound predicateNegation? predicateNegation?
      (Option.map (Span.relocate cut.move)) := by
  refine mirrors_atKind_bind rfl ?_ ?_
  · refine mirrors_kindAhead_bind (Nat.le_refl 1) (fun kind enough _ some => ?_) fun kind ends => ?_
    · have negated : Mirrors cut enough bound bound
          (do let span ← terminal; return Option.some span)
          (do let span ← terminal; return Option.some span)
          (Option.map (Span.relocate cut.move)) :=
        (mirrors_terminal some).here.bind fun span => mirrors_pure rfl
      split
      case h_4 => exact mirrors_pure rfl
      all_goals exact negated
    · rcases kind_of_endsClause ends with rfl | rfl | rfl | rfl | rfl | rfl | rfl <;> rfl
  · refine mirrors_kindAhead_bind_of_blind fun kind other => ?_
    -- without NOT, nothing is consumed whatever follows
    simp only [Bool.false_eq_true, if_false]
    split <;> split <;> exact mirrors_pure rfl

theorem membership_mirrors (inner : Nested.Mirrors cut bound first second) (start : Nat)
    (operand : BitExpr) (negation : Option Span) (some : 1 ≤ least) :
    Mirrors cut least (bound + 1) bound
      (membership first (cut.move start) (operand.relocate cut.move)
        (negation.map (Span.relocate cut.move)))
      (membership second start operand negation) (Predicate.relocate cut.move) := by
  have listed {least : Nat} : Mirrors cut least bound bound
      (do let leftParen ← expectSymbol .leftParen
          let items ← exprList first
          let rightParen ← expectSymbol .rightParen
          let span ← spanFrom (cut.move start)
          return Predicate.inList span (operand.relocate cut.move)
            (negation.map (Span.relocate cut.move)) leftParen items rightParen)
      (do let leftParen ← expectSymbol .leftParen
          let items ← exprList second
          let rightParen ← expectSymbol .rightParen
          let span ← spanFrom start
          return Predicate.inList span operand negation leftParen items rightParen)
      (Predicate.relocate cut.move) := by
    refine (mirrors_expectSymbol _).here.bind fun opening => ?_
    refine (exprList_mirrors inner).bind fun items => (mirrors_expectSymbol _).here.bind fun _ => ?_
    refine (mirrors_spanFrom start).bind fun span => mirrors_pure ?_
    simp [Predicate.relocate]
  refine (mirrors_advance some).bind fun _ => mirrors_atKind_bind rfl ?_ ?_
  · refine mirrors_kindAhead_bind (Nat.le_refl 1) (fun kind enough _ _ => ?_) fun kind ends => ?_
    · refine mirrors_ite (fun _ => ?_) fun _ => listed
      refine (subquery_mirrors inner).here.bind fun query => ?_
      exact (mirrors_spanFrom start).bind fun span => mirrors_pure rfl
    · rw [decide_eq_false (ne_of_endsClause ends rfl)]
      rfl
  · exact mirrors_kindAhead_bind_of_blind fun _ _ => listed

theorem range_mirrors (inner : Nested.Mirrors cut bound first second) (start : Nat)
    (operand : BitExpr) (negation : Option Span) (some : 1 ≤ least) :
    Mirrors cut least (bound + 1) bound
      (range first (cut.move start) (operand.relocate cut.move)
        (negation.map (Span.relocate cut.move)))
      (range second start operand negation) (Predicate.relocate cut.move) := by
  refine (mirrors_advance some).bind fun _ => (inner.bitExpr 0).bind fun lower => ?_
  refine (mirrors_expectKeyword _).here.bind fun word => inner.predicate.bind fun upper => ?_
  exact (mirrors_spanFrom start).bind fun span => mirrors_pure rfl

theorem escape_mirrors (inner : Nested.Mirrors cut bound first second) :
    Mirrors cut 0 bound bound (escape? first) (escape? second)
      (Option.map (SimpleExpr.relocate cut.move)) := by
  refine mirrors_atKind_ite rfl ?_ (mirrors_pure rfl)
  refine (mirrors_advance (Nat.le_max_right ..)).here.bind fun _ => ?_
  exact inner.simpleExpr.bind fun escape => mirrors_pure rfl

theorem pattern_mirrors (inner : Nested.Mirrors cut bound first second) (start : Nat)
    (operand : BitExpr) (negation : Option Span) (some : 1 ≤ least) :
    Mirrors cut least (bound + 1) bound
      (pattern first (cut.move start) (operand.relocate cut.move)
        (negation.map (Span.relocate cut.move)))
      (pattern second start operand negation) (Predicate.relocate cut.move) := by
  refine (mirrors_advance some).bind fun _ => inner.simpleExpr.bind fun text => ?_
  refine (escape_mirrors inner).bind fun escape => ?_
  refine (mirrors_spanFrom start).bind fun span => mirrors_pure ?_
  simp [Predicate.relocate]

theorem predicate_failsAtEnd (nested : Nested) : FailsAtEnd .expression (predicate nested) :=
  fun _ => predicate_atEnd nested

theorem predicate_mirrors (inner : Nested.Mirrors cut bound first second) :
    Mirrors cut 0 (bound + 1) (bound + 1) (predicate first) (predicate second)
      (Predicate.relocate cut.move) := by
  refine Mirrors.lift ?_ (predicate_failsAtEnd _) (predicate_failsAtEnd _)
  refine mirrors_offset_bind (Nat.le_refl 1) fun start => ?_
  refine (bitExpr_mirrors inner 0).anywhere.bind fun operand => ?_
  refine predicateNegation_mirrors.bind fun negation => ?_
  refine mirrors_kindAhead_bind (Nat.zero_le _) (fun kind enough some _ => ?_) fun kind ends => ?_
  · split
    · exact (membership_mirrors inner start operand negation (some nofun)).wide
    · exact (range_mirrors inner start operand negation (some nofun)).wide
    · exact (pattern_mirrors inner start operand negation (some nofun)).wide
    · exact mirrors_pure rfl
  · rcases kind_of_endsClause ends with rfl | rfl | rfl | rfl | rfl | rfl | rfl <;> rfl

/-! ### Comparisons -/

theorem truthTest_mirrors (start : Nat) (operand : BooleanPrimary) (some : 1 ≤ least) :
    Mirrors cut least (bound + 1) bound
      (truthTest (cut.move start) (operand.relocate cut.move)) (truthTest start operand)
      (BooleanPrimary.relocate cut.move) := by
  refine (mirrors_advance some).bind fun _ => (keyword_mirrors rfl).bind fun negation => ?_
  have fails : FailsAtEnd .truthValue (fail .truthValue : Parser BooleanPrimary) := failsAtEnd_fail
  refine mirrors_kindAhead_bind_of_fails (fun kind enough some _ => ?_) fails
  split
  case h_5 => exact mirrors_fail _
  all_goals
    refine (mirrors_terminal (some nofun)).here.bind fun value => ?_
    exact (mirrors_spanFrom start).bind fun span => mirrors_pure rfl

theorem comparison_mirrors {size : Nat} (inner : Nested.Mirrors cut bound first second)
    (few : size ≤ bound) (start : Nat) (left : BooleanPrimary) (some : 1 ≤ least) :
    Mirrors cut least (size + 1) size
      (comparison first (cut.move start) (left.relocate cut.move)) (comparison second start left)
      (BooleanPrimary.relocate cut.move) := by
  refine (mirrors_terminal some).bind fun operator => ?_
  have fails : FailsAtEnd .expression (second.predicate >>= fun right => do
      let span ← spanFrom start
      return BooleanPrimary.comparison span left operator right) :=
    FailsAtEnd.bind inner.fails.predicate
  refine mirrors_kindAhead_bind_of_fails (fun kind enough some _ => ?_) fails
  split
  case h_4 =>
    refine (inner.predicate.fewer few).anywhere.bind fun right => ?_
    exact (mirrors_spanFrom start).bind fun span => mirrors_pure rfl
  all_goals
    refine (mirrors_terminal (some nofun)).here.bind fun quantifier => ?_
    refine ((subquery_mirrors inner).here.fewer few).bind fun query => ?_
    exact (mirrors_spanFrom start).bind fun span => mirrors_pure rfl

theorem isComparison_of_endsClause {kind : TokenKind} (ends : endsClause 1 kind) :
    Precedence.isComparison kind = false := by
  rcases kind_of_endsClause ends with rfl | rfl | rfl | rfl | rfl | rfl | rfl <;> rfl

theorem primaryChain_mirrors (inner : Nested.Mirrors cut bound first second) (start : Nat)
    {size rounds : Nat} (few : size ≤ bound + 1) (enough : size ≤ rounds) (left : BooleanPrimary) :
    Mirrors cut 0 size size
      (primaryChain first (cut.move start) rounds (left.relocate cut.move))
      (primaryChain second start size left) (BooleanPrimary.relocate cut.move) := by
  induction size generalizing rounds left with
  | zero =>
      cases rounds with
      | zero => exact mirrors_pure rfl
      | succ rounds =>
          refine mirrors_kindAhead_atEnd fun kind ends => ?_
          rw [if_neg (ne_of_endsClause ends rfl), isComparison_of_endsClause ends]
          exact mirrors_pure rfl
  | succ size ih =>
      obtain ⟨rounds, rfl⟩ := Nat.exists_eq_succ_of_ne_zero (Nat.ne_zero_of_lt enough)
      refine mirrors_kindAhead_bind (Nat.zero_le _) (fun kind fewest some _ => ?_) fun kind ends => ?_
      · refine mirrors_ite (fun tested => ?_) fun _ => ?_
        · rw [tested] at some
          refine (truthTest_mirrors start left (some nofun)).bind fun test => ?_
          exact (ih (by omega) (by omega) test).wide
        · refine mirrors_ite (fun compares => ?_) fun _ => mirrors_pure rfl
          have more : kind ≠ .endOfInput := by
            rintro rfl
            cases compares
          refine (comparison_mirrors inner (by omega) start left (some more)).bind fun compared => ?_
          exact (ih (by omega) (by omega) compared).wide
      · rw [if_neg (ne_of_endsClause ends rfl), isComparison_of_endsClause ends]
        rfl

theorem primaryExpr_mirrors (inner : Nested.Mirrors cut bound first second) :
    Mirrors cut 0 (bound + 1) (bound + 1) (primaryExpr first) (primaryExpr second)
      (Expr.relocate cut.move) := by
  have fails (nested : Nested) : FailsAtEnd .expression (primaryExpr nested) :=
    fun _ => primaryExpr_atEnd nested
  have primary : Mirrors cut 1 (bound + 1) (bound + 1) (booleanPrimary first)
      (booleanPrimary second) (BooleanPrimary.relocate cut.move) := by
    refine mirrors_offset_bind (Nat.le_refl 1) fun start => ?_
    refine (predicate_mirrors inner).anywhere.bind fun left => ?_
    refine mirrors_remaining_bind fun size few rounds enough => ?_
    exact (primaryChain_mirrors inner start few enough (.predicate left)).mono (Nat.le_refl _)
      (Nat.le_refl _) few
  exact Mirrors.lift (primary.bind fun node => mirrors_pure rfl) (fails first) (fails second)

/-! ### Parentheses -/

/-- `( expr )`, or a failure if an operator below the logical level follows. -/
def enclosed (nested : Nested) : Parser Expr := do
  let start ← offset
  advance
  let inner ← nested.expr 0
  let _ ← expectSymbol .rightParen
  let following ← kindAhead 0
  if Precedence.continuesOperand following then
    fail .expression
  else
    let span ← spanFrom start
    return .paren span inner

theorem enclosed_found {nested : Nested} {cursor later : Cursor} {node : Expr} :
    enclosed? nested cursor = (.ok (some node), later) ↔
      enclosed nested cursor = (.ok node, later) := by
  rw [enclosed?, enclosed, bind_look offset_run, bind_look offset_run]
  change (nested.expr 0 >>= _) cursor.advance = _ ↔ (nested.expr 0 >>= _) cursor.advance = _
  rw [bind_run, bind_run]
  rcases nested.expr 0 cursor.advance with ⟨error | inner, place⟩
  · constructor <;> (intro same; cases same)
  · change (if (place.current.kind == .symbol .rightParen) = true then _ else _ : Parser _) place =
      _ ↔ (expectKind (.symbol .rightParen) >>= _) place = _
    rw [expectKind, atKind_bind, bind_assoc, bind_look (kindAhead_run 0)]
    change _ ↔ ((if (place.current.kind == .symbol .rightParen) = true then _ else _ : Parser _) >>=
      _) place = _
    split
    · change (if Precedence.continuesOperand place.advance.current.kind = true then _ else _ :
        Parser _) place.advance = _ ↔
        (if Precedence.continuesOperand place.advance.current.kind = true then _ else _ :
          Parser _) place.advance = _
      split
      · constructor <;> (intro same; cases same)
      · change (_, _) = _ ↔ (_, _) = _
        simp
    · constructor <;> (intro same; cases same)

theorem enclosed_mirrors (inner : Nested.Mirrors cut bound first second) (some : 1 ≤ least) :
    Mirrors cut least (bound + 1) bound (enclosed first) (enclosed second)
      (Expr.relocate cut.move) := by
  refine mirrors_offset_bind some fun start => (mirrors_advance some).bind fun _ => ?_
  refine (inner.expr 0).bind fun node => (mirrors_expectSymbol _).here.bind fun closing => ?_
  refine mirrors_kindAhead_bind (Nat.zero_le _) (fun kind enough _ _ => ?_) fun kind ends => ?_
  · refine mirrors_ite (fun _ => mirrors_fail _) fun _ => ?_
    exact (mirrors_spanFrom start).bind fun span => mirrors_pure rfl
  · rw [continuesOperand_of_endsClause ends]
    rfl

theorem parenthesised_found {nested : Nested} {cursor later : Cursor} {node : Expr}
    (run : enclosed nested cursor = (.ok node, later)) :
    parenthesised? .always nested cursor = (.ok (some node), later) := by
  rw [parenthesised_always, enclosed_found.mpr run]
  rfl

theorem parenthesised_missing {nested : Nested} {cursor : Cursor}
    (fails : ∀ node later, enclosed nested cursor ≠ (.ok node, later)) :
    ∃ others, parenthesised? .always nested cursor =
      (.ok none, { cursor with rejected := others }) := by
  rw [parenthesised_always]
  rcases run : enclosed? nested cursor with ⟨error | found | node, later⟩
  · exact ⟨_, rfl⟩
  · exact ⟨_, rfl⟩
  · exact absurd (enclosed_found.mp run) (fails node later)

/-- A parenthesis that encloses a whole operand in the whole text does so in the part. -/
def Resolves (cut : Cut) (bound : Nat) (first second : Nested) : Prop :=
  ∀ whole part, cut.Beside whole part → part.position ≤ bound + 1 →
    part.current.kind = .symbol .leftParen → ∀ node place, enclosed first whole = (.ok node, place) →
      ∃ own later, enclosed second part = (.ok own, later)

/-- If only offsets differ, what fails in the part fails in the whole. -/
theorem resolves_of_exact (exact : cut.Exact) (inner : Nested.Mirrors cut bound first second) :
    Resolves cut bound first second := by
  intro whole part beside few opens node place run
  have some : 1 ≤ part.position := beside.position_pos opens nofun
  rcases ownRun : enclosed second part with ⟨error | own, later⟩
  · obtain ⟨_, fails⟩ := enclosed_mirrors inner (Nat.le_refl 1) whole part beside some few
    obtain ⟨other, wholeRun, _⟩ := fails exact error later ownRun
    rw [run] at wholeRun
    cases wholeRun
  · exact ⟨own, later, rfl⟩

/-- A parenthesis is given up in the whole exactly if it is in the part. -/
theorem parenthesised_mirrors (inner : Nested.Mirrors cut bound first second)
    (resolves : Resolves cut bound first second) {whole part : Cursor}
    (beside : cut.Beside whole part) (few : part.position ≤ bound + 1)
    (opens : part.current.kind = .symbol .leftParen) :
    ∃ found place later, parenthesised? .always second part = (.ok found, later) ∧
      parenthesised? .always first whole = (.ok (found.map (Expr.relocate cut.move)), place) ∧
      cut.Beside place later ∧ later.position ≤ part.position := by
  have some := beside.position_pos opens nofun
  by_cases encloses : ∃ node later, enclosed second part = (.ok node, later)
  · obtain ⟨node, later, run⟩ := encloses
    obtain ⟨found, _⟩ := enclosed_mirrors inner (Nat.le_refl 1) whole part beside some few
    obtain ⟨place, wholeRun, besideLater, _, shorter⟩ := found node later run
    exact ⟨Option.some node, place, later, parenthesised_found run, parenthesised_found wholeRun,
      besideLater, shorter⟩
  · obtain ⟨others, run⟩ := parenthesised_missing fun node later found =>
      encloses ⟨node, later, found⟩
    obtain ⟨noted, wholeRun⟩ := parenthesised_missing fun node place found =>
      encloses (resolves whole part beside few opens node place found)
    exact ⟨none, _, _, run, wholeRun, beside.giving noted others, Nat.le_refl _⟩

/-! ### Connectives -/

theorem negated_mirrors (inner : Nested.Mirrors cut bound first second) (some : 1 ≤ least) :
    Mirrors cut least (bound + 1) bound (negated first) (negated second)
      (Expr.relocate cut.move) := by
  refine mirrors_offset_bind some fun start => (mirrors_terminal some).bind fun operator => ?_
  refine (inner.expr _).bind fun operand => ?_
  exact (mirrors_spanFrom start).bind fun span => mirrors_pure rfl

theorem parenthesisedOrPrimary_mirrors (inner : Nested.Mirrors cut bound first second)
    (resolves : Resolves cut bound first second) {whole part : Cursor}
    (beside : cut.Beside whole part) (few : part.position ≤ bound + 1)
    (opens : part.current.kind = .symbol .leftParen) :
    Echoes cut part.position (bound + 1) (Expr.relocate cut.move)
      (parenthesisedOrPrimary .always first whole)
      (parenthesisedOrPrimary .always second part) := by
  obtain ⟨taken, place, later, run, wholeRun, besideLater, shorter⟩ :=
    parenthesised_mirrors inner resolves beside few opens
  refine Mirrors.follow ?_ wholeRun run besideLater (Nat.le_trans shorter few) shorter
  cases taken with
  | some node => exact mirrors_pure rfl
  | none => exact primaryExpr_mirrors inner

theorem operand_mirrors (inner : Nested.Mirrors cut bound first second)
    (resolves : Resolves cut bound first second) :
    Mirrors cut 0 (bound + 1) (bound + 1) (operand .always first) (operand .always second)
      (Expr.relocate cut.move) := by
  have fails (nested : Nested) : FailsAtEnd .expression (operand .always nested) :=
    FailsAtEnd.after_kindAhead fun _ => primaryExpr_atEnd nested
  refine Mirrors.lift ?_ (fails first) (fails second)
  intro whole part beside some few
  have same := (beside.alike some).kind
  rw [operand, operand, bind_look (kindAhead_run 0), bind_look (kindAhead_run 0), same]
  generalize ahead : (part.ahead 0).kind = kind
  split
  · exact (negated_mirrors inner some).wide whole part beside (Nat.le_refl _) few
  · exact (negated_mirrors inner some).wide whole part beside (Nat.le_refl _) few
  · rw [bind_look (kindAhead_run 1), bind_look (kindAhead_run 1)]
    by_cases query : (part.ahead 1).kind = .keyword .SELECT
    · rw [if_pos query, if_pos ((beside.ahead_iff some rfl).mpr query)]
      exact primaryExpr_mirrors inner whole part beside (Nat.zero_le _) few
    · rw [if_neg query, if_neg fun other => query ((beside.ahead_iff some rfl).mp other)]
      exact parenthesisedOrPrimary_mirrors inner resolves beside few ahead
  · exact primaryExpr_mirrors inner whole part beside (Nat.zero_le _) few

theorem logical_of_endsClause {kind : TokenKind} (ends : endsClause 1 kind) :
    Precedence.logical? kind = none := by
  rcases kind_of_endsClause ends with rfl | rfl | rfl | rfl | rfl | rfl | rfl <;> rfl

theorem logicalChain_mirrors (inner : Nested.Mirrors cut bound first second) (start minimum : Nat)
    {size rounds : Nat} (few : size ≤ bound + 1) (enough : size ≤ rounds) (left : Expr) :
    Mirrors cut 0 size size
      (logicalChain first (cut.move start) minimum rounds (left.relocate cut.move))
      (logicalChain second start minimum size left) (Expr.relocate cut.move) := by
  induction size generalizing rounds left with
  | zero =>
      cases rounds with
      | zero => exact mirrors_pure rfl
      | succ rounds =>
          refine mirrors_kindAhead_atEnd fun kind ends => ?_
          rw [logical_of_endsClause ends]
          exact mirrors_pure rfl
  | succ size ih =>
      obtain ⟨rounds, rfl⟩ := Nat.exists_eq_succ_of_ne_zero (Nat.ne_zero_of_lt enough)
      refine mirrors_kindAhead_bind (Nat.zero_le _) (fun kind fewest some _ => ?_) fun kind ends => ?_
      · split
        case h_1 => exact mirrors_pure rfl
        case h_2 level found =>
            refine mirrors_ite (fun _ => mirrors_pure rfl) fun _ => ?_
            have more : kind ≠ .endOfInput := by
              rintro rfl
              cases found
            refine (mirrors_terminal (some more)).bind fun operator => ?_
            refine ((inner.expr _).fewer (by omega)).bind fun right => ?_
            refine (mirrors_spanFrom start).bind fun span => ?_
            refine mirrors_ite (fun _ => ?_) fun _ => ?_
            · exact (ih (by omega) (by omega) (.xor span left right)).wide
            · exact (ih (by omega) (by omega) (.logical span left operator right)).wide
      · rw [logical_of_endsClause ends]
        rfl

theorem expr_mirrors (inner : Nested.Mirrors cut bound first second)
    (resolves : Resolves cut bound first second) (minimum : Nat) :
    Mirrors cut 0 (bound + 1) (bound + 1) (expr .always first minimum)
      (expr .always second minimum) (Expr.relocate cut.move) := by
  have fails (nested : Nested) : FailsAtEnd .expression (expr .always nested minimum) :=
    fun _ => expr_atEnd .always nested minimum
  refine Mirrors.lift ?_ (fails first) (fails second)
  refine mirrors_offset_bind (Nat.le_refl 1) fun start => ?_
  refine (operand_mirrors inner resolves).anywhere.bind fun left => ?_
  refine mirrors_remaining_bind fun size few rounds enough => ?_
  exact (logicalChain_mirrors inner start minimum few enough left).mono (Nat.le_refl _)
    (Nat.le_refl _) few

end AnnotatedSql.Grammar.Parse
