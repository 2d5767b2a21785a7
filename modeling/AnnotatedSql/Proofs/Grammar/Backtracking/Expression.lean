/-
This file shows that expressions are parsed alike whether or not a parenthesis that was given up
is tried again.
-/

import AnnotatedSql.Proofs.Grammar.Backtracking.Call

namespace AnnotatedSql.Grammar.Parse

variable {origin : Cursor} {retry : Retry} {bound : Nat} {first second : Nested}

/-! ### Simple expressions -/

theorem literal_agree : Agree origin retry bound bound literal literal :=
  (agree_kindAhead 0).bind fun _ => agree_terminal.here.bind fun _ => agree_pure _

theorem negativeNumber_agree : Agree origin retry bound bound negativeNumber negativeNumber := by
  refine agree_offset.bind fun start => agree_advance.here.bind fun _ => ?_
  exact agree_advance.here.bind fun _ => (agree_spanFrom start).bind fun span => agree_pure _

theorem marker_agree : Agree origin retry bound bound marker marker :=
  agree_terminal.here.bind fun span => agree_pure (SimpleExpr.marker span)

theorem existence_agree (inner : Nested.Agree origin retry bound first second) :
    Agree origin retry (bound + 1) (bound + 1) (existence first) (existence second) := by
  refine agree_offset.bind fun start => agree_terminal.here.bind fun word => ?_
  refine (subquery_agree inner).wide.bind fun query => ?_
  exact (agree_spanFrom start).bind fun span => agree_pure _

theorem bareSubquery_agree (inner : Nested.Agree origin retry bound first second) :
    Agree origin retry (bound + 1) (bound + 1) (bareSubquery first) (bareSubquery second) :=
  (subquery_agree inner).wide.bind fun _ => agree_pure _

theorem row_agree (inner : Nested.Agree origin retry bound first second) :
    Agree origin retry (bound + 1) bound (row first) (row second) := by
  refine agree_offset.bind fun start => agree_advance.bind fun _ => ?_
  refine (exprList_agree inner).bind fun items => (agree_expectKind _).here.bind fun closing => ?_
  exact (agree_spanFrom start).bind fun span => agree_pure _

theorem caseBranch_agree (inner : Nested.Agree origin retry bound first second) :
    Agree origin retry bound bound (caseBranch first) (caseBranch second) := by
  refine agree_offset.bind fun start => agree_advance.here.bind fun _ => ?_
  refine (inner.expr 0).bind fun condition => (agree_expectKeyword _).here.bind fun word => ?_
  refine (inner.expr 0).bind fun result => (agree_spanFrom start).bind fun span => ?_
  exact agree_pure _

theorem caseBranchesUpTo_agree (inner : Nested.Agree origin retry bound first second)
    (rounds : Nat) :
    Agree origin retry bound bound (caseBranchesUpTo first rounds)
      (caseBranchesUpTo second rounds) := by
  induction rounds with
  | zero => exact agree_pure []
  | succ rounds ih =>
      refine (agree_atKind _).bind fun found => agree_ite (fun _ => ?_) fun _ => agree_pure []
      exact (caseBranch_agree inner).bind fun branch => ih.bind fun others => agree_pure _

theorem caseOperand_agree (inner : Nested.Agree origin retry bound first second) :
    Agree origin retry bound bound (caseOperand? first) (caseOperand? second) := by
  refine (agree_atKind _).bind fun absent => agree_ite (fun _ => agree_pure none) fun _ => ?_
  exact inner.simpleExpr.bind fun operand => agree_pure (some operand)

theorem otherwise_agree (inner : Nested.Agree origin retry bound first second) :
    Agree origin retry bound bound (otherwise? first) (otherwise? second) := by
  refine (agree_atKind _).bind fun led => agree_ite (fun _ => ?_) fun _ => agree_pure none
  exact agree_advance.here.bind fun _ => (inner.expr 0).bind fun result => agree_pure (some result)

theorem caseExpr_agree (inner : Nested.Agree origin retry bound first second) :
    Agree origin retry (bound + 1) bound (caseExpr first) (caseExpr second) := by
  refine agree_offset.bind fun start => agree_advance.bind fun _ => ?_
  refine (caseOperand_agree inner).bind fun operand => agree_remaining.bind fun rounds => ?_
  refine (caseBranchesUpTo_agree inner rounds).bind fun branches => ?_
  refine agree_ite (fun _ => agree_fail _) fun _ => (otherwise_agree inner).bind fun otherwise => ?_
  refine (agree_expectKeyword _).here.bind fun closing => ?_
  exact (agree_spanFrom start).bind fun span => agree_pure _

theorem unary_agree (inner : Nested.Agree origin retry bound first second) :
    Agree origin retry (bound + 1) bound (unary first) (unary second) := by
  refine agree_offset.bind fun start => agree_terminal.bind fun operator => ?_
  refine inner.simpleExpr.bind fun operand => (agree_spanFrom start).bind fun span => ?_
  exact agree_pure _

theorem nameOrCall_agree (inner : Nested.Agree origin retry bound first second) :
    Agree origin retry (bound + 1) (bound + 1) (nameOrCall first) (nameOrCall second) := by
  refine agree_current.bind fun token => (agree_kindAhead 1).bind fun following => ?_
  refine agree_ite (fun _ => agree_ite (fun _ => ?_) fun _ => ?_) fun _ => ?_
  · exact (aggregationCall_agree inner).wide.bind fun call => agree_pure _
  · exact (regularCall_agree inner).wide.bind fun call => agree_pure _
  · exact qualifiedName_agree.bind fun name => agree_pure (SimpleExpr.column name)

theorem specialCall_agree (inner : Nested.Agree origin retry bound first second) (word : Keyword) :
    Agree origin retry (bound + 1) (bound + 1) (specialCall first word)
      (specialCall second word) := by
  refine (agree_kindAhead 1).bind fun following => agree_ite (fun _ => ?_) fun _ => agree_fail _
  split
  · exact (castCall_agree inner).wide.bind fun call => agree_pure _
  · exact (substringCall_agree inner).wide.bind fun call => agree_pure _
  · exact (extractCall_agree inner).wide.bind fun call => agree_pure _
  · exact (trimCall_agree inner).wide.bind fun call => agree_pure _

theorem parenthesis_agree (inner : Nested.Agree origin retry bound first second) :
    Agree origin retry (bound + 1) (bound + 1) (parenthesis first) (parenthesis second) := by
  refine (agree_kindAhead 1).bind fun following => ?_
  exact agree_ite (fun _ => bareSubquery_agree inner) fun _ => (row_agree inner).wide

theorem minus_agree (inner : Nested.Agree origin retry bound first second) :
    Agree origin retry (bound + 1) (bound + 1) (minus first) (minus second) := by
  refine (agree_kindAhead 1).bind fun following => ?_
  exact agree_ite (fun _ => negativeNumber_agree) fun _ => (unary_agree inner).wide

theorem simpleExpr_agree (inner : Nested.Agree origin retry bound first second) :
    Agree origin retry (bound + 1) (bound + 1) (simpleExpr first) (simpleExpr second) := by
  refine (agree_kindAhead 0).bind fun kind => ?_
  split
  case h_1 => exact marker_agree
  case h_2 => exact minus_agree inner
  case h_3 => exact parenthesis_agree inner
  -- signs
  iterate 4 exact (unary_agree inner).wide
  -- literals
  iterate 7 exact literal_agree
  case h_15 => exact existence_agree inner
  case h_16 => exact (caseExpr_agree inner).wide
  -- calls of functions with a grammar of their own
  iterate 4 exact specialCall_agree inner _
  case h_21 => exact agree_ite (fun _ => nameOrCall_agree inner) fun _ => agree_fail _
  case h_22 => exact nameOrCall_agree inner
  case h_23 => exact nameOrCall_agree inner
  case h_24 => exact agree_fail _

/-! ### Bit expressions and predicates -/

theorem bitChain_agree (inner : Nested.Agree origin retry bound first second)
    (start minimum rounds : Nat) (left : BitExpr) :
    Agree origin retry (bound + 1) (bound + 1) (bitChain first start minimum rounds left)
      (bitChain second start minimum rounds left) := by
  induction rounds generalizing left with
  | zero => exact agree_pure left
  | succ rounds ih =>
      refine (agree_kindAhead 0).bind fun kind => ?_
      split
      · exact agree_pure left
      · refine agree_ite (fun _ => agree_pure left) fun _ => agree_terminal.bind fun operator => ?_
        refine (inner.bitExpr _).wide.bind fun right => (agree_spanFrom start).bind fun span => ?_
        exact ih _

theorem bitExpr_agree (inner : Nested.Agree origin retry bound first second) (minimum : Nat) :
    Agree origin retry (bound + 1) (bound + 1) (bitExpr first minimum)
      (bitExpr second minimum) := by
  refine agree_offset.bind fun start => (simpleExpr_agree inner).bind fun left => ?_
  exact agree_remaining.bind fun rounds => bitChain_agree inner start minimum rounds _

theorem predicateNegation_agree :
    Agree origin retry bound bound predicateNegation? predicateNegation? := by
  refine (agree_atKind _).bind fun negated => (agree_kindAhead 1).bind fun following => ?_
  split
  all_goals first
    | exact agree_pure none
    | refine agree_ite (fun _ => ?_) fun _ => agree_pure none
      exact agree_terminal.here.bind fun span => agree_pure (some span)

theorem membership_agree (inner : Nested.Agree origin retry bound first second) (start : Nat)
    (operand : BitExpr) (negation : Option Span) :
    Agree origin retry (bound + 1) (bound + 1) (membership first start operand negation)
      (membership second start operand negation) := by
  refine agree_advance.here.bind fun _ => (agree_atKind _).bind fun opened => ?_
  refine (agree_kindAhead 1).bind fun following => agree_ite (fun _ => ?_) fun _ => ?_
  · refine (subquery_agree inner).wide.bind fun query => ?_
    exact (agree_spanFrom start).bind fun span => agree_pure _
  · refine (agree_expectKind _).bind fun opening => (exprList_agree inner).bind fun items => ?_
    refine (agree_expectKind _).here.wide.bind fun closing => ?_
    exact (agree_spanFrom start).bind fun span => agree_pure _

theorem range_agree (inner : Nested.Agree origin retry bound first second) (start : Nat)
    (operand : BitExpr) (negation : Option Span) :
    Agree origin retry (bound + 1) bound (range first start operand negation)
      (range second start operand negation) := by
  refine agree_advance.bind fun _ => (inner.bitExpr 0).bind fun lower => ?_
  refine (agree_expectKeyword _).here.bind fun word => inner.predicate.bind fun upper => ?_
  exact (agree_spanFrom start).bind fun span => agree_pure _

theorem escape_agree (inner : Nested.Agree origin retry bound first second) :
    Agree origin retry bound bound (escape? first) (escape? second) := by
  refine (agree_atKind _).bind fun led => agree_ite (fun _ => ?_) fun _ => agree_pure none
  refine agree_advance.here.bind fun _ => ?_
  exact inner.simpleExpr.bind fun escape => agree_pure (some escape)

theorem pattern_agree (inner : Nested.Agree origin retry bound first second) (start : Nat)
    (operand : BitExpr) (negation : Option Span) :
    Agree origin retry (bound + 1) bound (pattern first start operand negation)
      (pattern second start operand negation) := by
  refine agree_advance.bind fun _ => inner.simpleExpr.bind fun text => ?_
  refine (escape_agree inner).bind fun escape => (agree_spanFrom start).bind fun span => ?_
  exact agree_pure _

theorem predicate_agree (inner : Nested.Agree origin retry bound first second) :
    Agree origin retry (bound + 1) (bound + 1) (predicate first) (predicate second) := by
  refine agree_offset.bind fun start => (bitExpr_agree inner 0).bind fun operand => ?_
  refine predicateNegation_agree.bind fun negation => (agree_kindAhead 0).bind fun kind => ?_
  split
  · exact membership_agree inner start operand negation
  · exact (range_agree inner start operand negation).wide
  · exact (pattern_agree inner start operand negation).wide
  · exact agree_pure _

/-! ### Comparisons -/

theorem truthTest_agree (start : Nat) (operand : BooleanPrimary) :
    Agree origin retry bound bound (truthTest start operand) (truthTest start operand) := by
  refine agree_advance.here.bind fun _ => (keyword_agree _).bind fun negation => ?_
  refine (agree_kindAhead 0).bind fun kind => ?_
  split
  all_goals first
    | exact agree_fail _
    | refine agree_terminal.here.bind fun value => ?_
      exact (agree_spanFrom start).bind fun span => agree_pure _

theorem comparison_agree (inner : Nested.Agree origin retry bound first second) (start : Nat)
    (left : BooleanPrimary) :
    Agree origin retry (bound + 1) (bound + 1) (comparison first start left)
      (comparison second start left) := by
  refine agree_terminal.bind fun operator => (agree_kindAhead 0).bind fun kind => ?_
  have quantified : Agree origin retry bound (bound + 1)
      (do let quantifier ← terminal; let query ← subquery first; let span ← spanFrom start
          return BooleanPrimary.quantified span left operator quantifier query)
      (do let quantifier ← terminal; let query ← subquery second; let span ← spanFrom start
          return BooleanPrimary.quantified span left operator quantifier query) := by
    refine agree_terminal.here.bind fun quantifier => ?_
    refine (subquery_agree inner).here.bind fun query => ?_
    exact (agree_spanFrom start).bind fun span => (agree_pure _).wide
  split
  · exact quantified
  · exact quantified
  · exact quantified
  · refine inner.predicate.bind fun right => (agree_spanFrom start).bind fun span => ?_
    exact (agree_pure _).wide

theorem primaryChain_agree (inner : Nested.Agree origin retry bound first second)
    (start rounds : Nat) (left : BooleanPrimary) :
    Agree origin retry (bound + 1) (bound + 1) (primaryChain first start rounds left)
      (primaryChain second start rounds left) := by
  induction rounds generalizing left with
  | zero => exact agree_pure left
  | succ rounds ih =>
      refine (agree_kindAhead 0).bind fun kind => agree_ite (fun _ => ?_) fun _ => ?_
      · exact (truthTest_agree start left).bind fun test => ih test
      · refine agree_ite (fun _ => ?_) fun _ => agree_pure left
        exact (comparison_agree inner start left).bind fun compared => ih compared

theorem booleanPrimary_agree (inner : Nested.Agree origin retry bound first second) :
    Agree origin retry (bound + 1) (bound + 1) (booleanPrimary first) (booleanPrimary second) := by
  refine agree_offset.bind fun start => (predicate_agree inner).bind fun left => ?_
  exact agree_remaining.bind fun rounds => primaryChain_agree inner start rounds _

/-! ### Parentheses -/

theorem enclosed_agree (inner : Nested.Agree origin retry bound first second) :
    Agree origin retry (bound + 1) bound (enclosed? first) (enclosed? second) := by
  refine agree_offset.bind fun start => agree_advance.bind fun _ => ?_
  refine (inner.expr 0).bind fun node => ?_
  refine (agree_atKind _).bind fun closed => agree_ite (fun _ => ?_) fun _ => agree_pure none
  refine agree_advance.here.bind fun _ => (agree_kindAhead 0).bind fun following => ?_
  refine agree_ite (fun _ => agree_pure none) fun _ => ?_
  exact (agree_spanFrom start).bind fun span => agree_pure _

/-- The value and the place after a parenthesis was tried. -/
def afterTrial (before : Cursor) : Except SyntaxError (Option Expr) × Cursor →
    Except SyntaxError (Option Expr) × Cursor
  | (.ok (some node), later) => (.ok (some node), later)
  | (_, later) => (.ok none, before.giveUp later)

theorem parenthesised_skipped {nested : Nested} {cursor : Cursor}
    (skipped : cursor.position ∈ cursor.rejected) :
    parenthesised? .never nested cursor = (.ok none, cursor) := by
  have rejected : cursor.isRejected = true := by
    rw [Cursor.isRejected, List.contains_iff_mem]
    exact skipped
  change (if (Retry.never = .never && cursor.isRejected) = true then _ else _ : Parser _) cursor = _
  rw [rejected]
  rfl

theorem parenthesised_tried {nested : Nested} {cursor : Cursor}
    (tried : retry = .never → cursor.position ∉ cursor.rejected) :
    parenthesised? retry nested cursor = afterTrial cursor (enclosed? nested cursor) := by
  have fresh : (retry = .never && cursor.isRejected) = false := by
    cases retry with
    | always => rfl
    | never => simpa [Cursor.isRejected] using tried rfl
  change (if (retry = .never && cursor.isRejected) = true then _ else _ : Parser _) cursor = _
  rw [fresh]
  change (attempt (enclosed? nested) >>= _) cursor = _
  rw [bind_run, attempt]
  rcases enclosed? nested cursor with ⟨_ | _ | _, later⟩ <;> rfl

theorem parenthesised_always {nested : Nested} {cursor : Cursor} :
    parenthesised? .always nested cursor = afterTrial cursor (enclosed? nested cursor) :=
  parenthesised_tried (by simp)

/-- The nested parsers agree, at every smaller number of tokens, with those that try every
parenthesis again, provided these may look deep enough. -/
def Settled (origin : Cursor) (retry : Retry) (bound : Nat) (first : Nested) : Prop :=
  ∀ below ≤ bound, ∀ depth, below ≤ depth →
    Nested.Agree origin retry below first (nested .always depth)

/-- A parenthesis that encloses no operand at one cursor encloses none wherever one looks from the
same place, so that it may be given up for good. -/
theorem Settled.remembers {cursor later : Cursor} (settled : Settled origin .never bound first)
    (valid : Cursor.Valid origin .never cursor) (least : cursor.position ≤ bound + 1)
    (validLater : Cursor.Valid origin .never later)
    (fails : ∀ found, (enclosed? first cursor).1 ≠ .ok (some found)) :
    Cursor.Remembers origin (cursor.giveUp later) := by
  intro position member place follows same depth deep found
  rcases List.mem_cons.mp member with rfl | member
  · have inner := settled (cursor.position - 1) (by omega) depth (by omega)
    obtain ⟨outcome, _, _, run, otherRun, _, _⟩ :=
      enclosed_agree inner cursor place.rejected valid (by omega)
    rw [valid.follows.same_place follows same.symm, otherRun]
    rw [run] at fails
    exact fails found
  · exact validLater.remembers rfl position member place follows same depth deep found

theorem parenthesised_agree {depth : Nat} (settled : Settled origin retry bound first)
    (deep : bound ≤ depth) :
    Agree origin retry (bound + 1) (bound + 1) (parenthesised? retry first)
      (parenthesised? .always (nested .always depth)) := by
  intro cursor others valid least
  have inner := settled bound (Nat.le_refl bound) depth deep
  obtain ⟨outcome, later, left, run, otherRun, validLater, leastLater⟩ :=
    enclosed_agree inner cursor others valid least
  rw [parenthesised_always, otherRun]
  by_cases skipped : retry = .never ∧ cursor.position ∈ cursor.rejected
  · obtain ⟨rfl, rejected⟩ := skipped
    rw [parenthesised_skipped rejected]
    have fails := valid.remembers rfl _ rejected { cursor with rejected := others }
      (valid.follows.giving others) rfl depth (by omega)
    rw [otherRun] at fails
    refine ⟨.ok none, cursor, cursor.position :: left, rfl, ?_, valid, fun _ _ => least⟩
    rcases outcome with error | found | found
    · rfl
    · rfl
    · exact absurd rfl (fails found)
  · rw [parenthesised_tried (fun never rejected => skipped ⟨never, rejected⟩), run]
    have givenUp (fails : ∀ found, outcome ≠ .ok (some found)) :
        Cursor.Valid origin retry (cursor.giveUp later) := by
      refine ⟨valid.follows.giving _, ?_⟩
      rintro rfl
      refine settled.remembers valid least validLater ?_
      rw [run]
      exact fails
    rcases outcome with error | found | found
    · exact ⟨.ok none, cursor.giveUp later, cursor.position :: left, rfl, rfl, givenUp (by simp),
        fun _ _ => least⟩
    · exact ⟨.ok none, cursor.giveUp later, cursor.position :: left, rfl, rfl, givenUp (by simp),
        fun _ _ => least⟩
    · refine ⟨.ok (some found), later, left, rfl, rfl, validLater, ?_⟩
      intro value _
      have fewer := leastLater _ rfl
      omega

/-! ### Connectives -/

theorem primaryExpr_agree {second : Nested} (inner : Nested.Agree origin retry bound first second) :
    Agree origin retry (bound + 1) (bound + 1) (primaryExpr first) (primaryExpr second) :=
  (booleanPrimary_agree inner).bind fun primary => agree_pure (Expr.primary primary)

theorem negated_agree {second : Nested} (inner : Nested.Agree origin retry bound first second) :
    Agree origin retry (bound + 1) bound (negated first) (negated second) := by
  refine agree_offset.bind fun start => agree_terminal.bind fun operator => ?_
  refine (inner.expr _).bind fun operand => (agree_spanFrom start).bind fun span => ?_
  exact agree_pure _

theorem parenthesisedOrPrimary_agree {depth : Nat} (settled : Settled origin retry bound first)
    (deep : bound ≤ depth) :
    Agree origin retry (bound + 1) (bound + 1) (parenthesisedOrPrimary retry first)
      (parenthesisedOrPrimary .always (nested .always depth)) := by
  refine (parenthesised_agree settled deep).bind fun found => ?_
  cases found with
  | some node => exact agree_pure node
  | none => exact primaryExpr_agree (settled bound (Nat.le_refl bound) depth deep)

theorem operand_agree {depth : Nat} (settled : Settled origin retry bound first)
    (deep : bound ≤ depth) :
    Agree origin retry (bound + 1) (bound + 1) (operand retry first)
      (operand .always (nested .always depth)) := by
  have inner := settled bound (Nat.le_refl bound) depth deep
  refine (agree_kindAhead 0).bind fun kind => ?_
  split
  · exact (negated_agree inner).wide
  · exact (negated_agree inner).wide
  · refine (agree_kindAhead 1).bind fun following => ?_
    exact agree_ite (fun _ => primaryExpr_agree inner) fun _ =>
      parenthesisedOrPrimary_agree settled deep
  · exact primaryExpr_agree inner

theorem logicalChain_agree {second : Nested} (inner : Nested.Agree origin retry bound first second)
    (start minimum rounds : Nat) (left : Expr) :
    Agree origin retry (bound + 1) (bound + 1) (logicalChain first start minimum rounds left)
      (logicalChain second start minimum rounds left) := by
  induction rounds generalizing left with
  | zero => exact agree_pure left
  | succ rounds ih =>
      refine (agree_kindAhead 0).bind fun kind => ?_
      split
      · exact agree_pure left
      · refine agree_ite (fun _ => agree_pure left) fun _ => agree_terminal.bind fun operator => ?_
        refine (inner.expr _).wide.bind fun right => (agree_spanFrom start).bind fun span => ?_
        exact agree_ite (fun _ => ih _) fun _ => ih _

theorem expr_agree {depth : Nat} (settled : Settled origin retry bound first)
    (deep : bound ≤ depth) (minimum : Nat) :
    Agree origin retry (bound + 1) (bound + 1) (expr retry first minimum)
      (expr .always (nested .always depth) minimum) := by
  have inner := settled bound (Nat.le_refl bound) depth deep
  refine agree_offset.bind fun start => (operand_agree settled deep).bind fun left => ?_
  exact agree_remaining.bind fun rounds => logicalChain_agree inner start minimum rounds left

end AnnotatedSql.Grammar.Parse
