/-
This file shows that a statement is parsed alike whether or not a parenthesis that was given up is
tried again, even after earlier statements from the same tokens.
-/

import AnnotatedSql.Proofs.Grammar.Backtracking.Expression

namespace AnnotatedSql.Grammar.Parse

variable {origin : Cursor} {retry : Retry} {bound : Nat} {first second : Nested}

/-! ### Items and clauses -/

theorem qualifiedShorthand_agree :
    Agree origin retry bound bound qualifiedShorthand qualifiedShorthand := by
  refine agree_offset.bind fun start => label_agree.bind fun owner => ?_
  refine agree_advance.here.bind fun _ => agree_advance.here.bind fun _ => ?_
  exact (agree_spanFrom start).bind fun span => agree_pure _

theorem exprItem_agree (inner : Nested.Agree origin retry bound first second) :
    Agree origin retry bound bound (exprItem first) (exprItem second) := by
  refine agree_offset.bind fun start => (inner.expr 0).bind fun node => ?_
  refine itemLabel_agree.bind fun itemLabel => (agree_spanFrom start).bind fun span => ?_
  exact agree_pure _

theorem selectItem_agree (inner : Nested.Agree origin retry bound first second) :
    Agree origin retry bound bound (selectItem first) (selectItem second) := by
  refine (agree_kindAhead 0).bind fun kind => (agree_kindAhead 1).bind fun following => ?_
  refine (agree_kindAhead 2).bind fun third => agree_ite (fun _ => ?_) fun _ => ?_
  · exact agree_terminal.here.bind fun star => agree_pure _
  · exact agree_ite (fun _ => qualifiedShorthand_agree) fun _ => exprItem_agree inner

theorem selectList_agree (inner : Nested.Agree origin retry bound first second) :
    Agree origin retry bound bound (selectList first) (selectList second) := by
  refine agree_offset.bind fun start => ?_
  refine (commaList_agree (selectItem_agree inner)).bind fun items => ?_
  exact (agree_spanFrom start).bind fun span => agree_pure _

/-- The value and the place after a name was tried as a whole order item. -/
def afterName (before : Cursor) : Except SyntaxError QualifiedName × Cursor →
    Except SyntaxError (Option QualifiedName) × Cursor
  | (.ok name, later) =>
      if Precedence.endsOrderItem later.current.kind then (.ok (some name), later)
      else (.ok none, { before with rejected := later.rejected })
  | (.error error, later) => (.error error, later)

theorem orderColumn_run (cursor : Cursor) :
    orderColumn? cursor =
      if cursor.current.kind.isName then afterName cursor (qualifiedName cursor)
      else (.ok none, cursor) := by
  change (if cursor.current.kind.isName = true then _ else _ : Parser _) cursor = _
  split
  · rw [bind_run]
    rcases qualifiedName cursor with ⟨error | name, later⟩
    · rfl
    · change (if Precedence.endsOrderItem later.current.kind = true then _ else _ : Parser _)
        later = _
      rw [afterName]
      split <;> rfl
  · rfl

/-- Coming back to a place keeps what was given up since. -/
theorem orderColumn_agree : Agree origin retry bound bound orderColumn? orderColumn? := by
  intro cursor others valid least
  obtain ⟨outcome, later, left, run, otherRun, validLater, leastLater⟩ :=
    qualifiedName_agree cursor others valid least
  rw [orderColumn_run, orderColumn_run, run, otherRun]
  change ∃ _ _ _, _ ∧ (if cursor.current.kind.isName = true then _ else _) = _ ∧ _
  split
  · rcases outcome with error | name
    · exact ⟨.error error, later, left, rfl, rfl, validLater, by simp⟩
    · change ∃ _ _ _, (if Precedence.endsOrderItem later.current.kind = true then _ else _) = _ ∧
        (if Precedence.endsOrderItem later.current.kind = true then _ else _) = _ ∧ _
      split
      · exact ⟨.ok (some name), later, left, rfl, rfl, validLater, fun _ _ => leastLater _ rfl⟩
      · exact ⟨.ok none, { cursor with rejected := later.rejected }, left, rfl, rfl,
          ⟨valid.follows.giving _, validLater.remembers⟩, fun _ _ => least⟩
  · exact ⟨.ok none, cursor, others, rfl, rfl, valid, fun _ _ => least⟩

theorem orderTarget_agree (inner : Nested.Agree origin retry bound first second) :
    Agree origin retry bound bound (orderTarget first) (orderTarget second) := by
  refine (agree_kindAhead 0).bind fun kind => (agree_kindAhead 1).bind fun following => ?_
  refine agree_ite (fun _ => ?_) fun _ => orderColumn_agree.bind fun found => ?_
  · exact agree_terminal.here.bind fun number => agree_pure _
  · cases found with
    | some column => exact agree_pure _
    | none => exact (inner.expr 0).bind fun node => agree_pure _

theorem direction_agree : Agree origin retry bound bound direction direction := by
  refine (keyword_agree _).bind fun ascending => ?_
  cases ascending with
  | some span => exact agree_pure _
  | none => exact (keyword_agree _).bind fun descending => agree_pure _

theorem orderItem_agree (inner : Nested.Agree origin retry bound first second) :
    Agree origin retry bound bound (orderItem first) (orderItem second) := by
  refine agree_offset.bind fun start => (orderTarget_agree inner).bind fun target => ?_
  refine direction_agree.bind fun directions => (agree_spanFrom start).bind fun span => ?_
  exact agree_pure _

theorem orderClause_agree (inner : Nested.Agree origin retry bound first second) (word : Keyword) :
    Agree origin retry bound bound (orderClause? first word) (orderClause? second word) := by
  refine (agree_atKind _).bind fun found => agree_ite (fun _ => ?_) fun _ => agree_pure none
  refine agree_offset.bind fun start => agree_advance.here.bind fun _ => ?_
  refine (agree_expectKeyword _).here.bind fun byWord => ?_
  refine (commaList_agree (orderItem_agree inner)).bind fun items => ?_
  exact (agree_spanFrom start).bind fun span => agree_pure _

theorem conditionClause_agree (inner : Nested.Agree origin retry bound first second)
    (word : Keyword) :
    Agree origin retry bound bound (conditionClause? first word)
      (conditionClause? second word) := by
  refine (agree_atKind _).bind fun found => agree_ite (fun _ => ?_) fun _ => agree_pure none
  refine agree_offset.bind fun start => agree_advance.here.bind fun _ => ?_
  refine (inner.expr 0).bind fun node => (agree_spanFrom start).bind fun span => ?_
  exact agree_pure _

theorem tables_agree : Agree origin retry bound bound tables? tables? := by
  refine (agree_atKind _).bind fun found => agree_ite (fun _ => ?_) fun _ => agree_pure none
  exact agree_advance.here.bind fun _ => nameList_agree.bind fun names => agree_pure (some names)

theorem distinct_agree : Agree origin retry bound bound distinct? distinct? := by
  refine (keyword_agree _).bind fun distinct => ?_
  cases distinct with
  | some span => exact agree_pure _
  | none => exact (keyword_agree _).bind fun all => agree_pure none

theorem select_agree (inner : Nested.Agree origin retry bound first second) :
    Agree origin retry (bound + 1) bound (select first) (select second) := by
  refine agree_offset.bind fun start => (agree_expectKeyword _).bind fun word => ?_
  refine distinct_agree.bind fun distinct => (selectList_agree inner).bind fun items => ?_
  refine tables_agree.bind fun tables => (conditionClause_agree inner _).bind fun condition => ?_
  refine (orderClause_agree inner _).bind fun grouping => ?_
  refine (conditionClause_agree inner _).bind fun having => ?_
  refine (orderClause_agree inner _).bind fun ordering => ?_
  exact (agree_spanFrom start).bind fun span => agree_pure _

/-! ### The end of the tokens -/

section
variable {Value Result : Type} {cursor : Cursor}

/-- No token is left. -/
structure AtEnd (cursor : Cursor) : Prop where
  ends : cursor.Ends
  nothing : cursor.unread = []

theorem AtEnd.ahead (atEnd : AtEnd cursor) (distance : Nat) :
    (cursor.ahead distance).kind = .endOfInput := by
  rw [Cursor.ahead, atEnd.nothing]
  exact atEnd.ends

theorem simpleExpr_atEnd (nested : Nested) (atEnd : AtEnd cursor) :
    simpleExpr nested cursor = fail .expression cursor := by
  rw [simpleExpr, bind_look (kindAhead_run 0), atEnd.ahead 0]

theorem bitExpr_atEnd (nested : Nested) (minimum : Nat) (atEnd : AtEnd cursor) :
    bitExpr nested minimum cursor = fail .expression cursor := by
  rw [bitExpr, bind_look offset_run]
  exact bind_error (simpleExpr_atEnd nested atEnd)

theorem predicate_atEnd (nested : Nested) (atEnd : AtEnd cursor) :
    predicate nested cursor = fail .expression cursor := by
  rw [predicate, bind_look offset_run]
  exact bind_error (bitExpr_atEnd nested 0 atEnd)

theorem primaryExpr_atEnd (nested : Nested) (atEnd : AtEnd cursor) :
    primaryExpr nested cursor = fail .expression cursor := by
  have fails : booleanPrimary nested cursor = fail .expression cursor := by
    rw [booleanPrimary, bind_look offset_run]
    exact bind_error (predicate_atEnd nested atEnd)
  exact bind_error fails

theorem expr_atEnd (retry : Retry) (nested : Nested) (minimum : Nat) (atEnd : AtEnd cursor) :
    expr retry nested minimum cursor = fail .expression cursor := by
  have fails : operand retry nested cursor = fail .expression cursor := by
    rw [operand, bind_look (kindAhead_run 0), atEnd.ahead 0]
    exact primaryExpr_atEnd nested atEnd
  rw [expr, bind_look offset_run]
  exact bind_error fails

theorem select_atEnd (nested : Nested) (atEnd : AtEnd cursor) :
    select nested cursor = fail (.keyword .SELECT) cursor := by
  have fails : expectKeyword .SELECT cursor = fail (.keyword .SELECT) cursor := by
    have missing : (cursor.current.kind == .keyword .SELECT) = false := by
      rw [Cursor.current, atEnd.ahead 0]
      rfl
    rw [expectKeyword]
    change (if (cursor.current.kind == .keyword .SELECT) = true then _ else _ : Parser _) cursor = _
    rw [missing]
    rfl
  rw [select, bind_look offset_run]
  exact bind_error fails

/-- Parsers that only fail where no token is left agree there. -/
theorem agree_atEnd {first second : Parser Value} {expected : Expected} (ends : origin.Ends)
    (fails : ∀ cursor, AtEnd cursor → first cursor = fail expected cursor)
    (otherFails : ∀ cursor, AtEnd cursor → second cursor = fail expected cursor) :
    Agree origin retry 0 0 first second := by
  intro cursor others valid least
  obtain ⟨tokens, reads⟩ := valid.follows
  have nothing : cursor.unread.length = 0 := Nat.le_zero.mp least
  have atEnd : AtEnd cursor := ⟨reads.ends ends, List.eq_nil_of_length_eq_zero nothing⟩
  have otherAtEnd : AtEnd { cursor with rejected := others } := ⟨atEnd.ends, atEnd.nothing⟩
  rw [fails cursor atEnd, otherFails _ otherAtEnd]
  exact agree_fail expected cursor others valid least

end

/-- All nested parsers fail where no token is left. -/
structure Nested.FailsAtEnd (parsers : Nested) : Prop where
  expr (minimum : Nat) (cursor : Cursor) : AtEnd cursor →
    parsers.expr minimum cursor = fail .expression cursor
  predicate (cursor : Cursor) : AtEnd cursor → parsers.predicate cursor = fail .expression cursor
  bitExpr (minimum : Nat) (cursor : Cursor) : AtEnd cursor →
    parsers.bitExpr minimum cursor = fail .expression cursor
  simpleExpr (cursor : Cursor) : AtEnd cursor → parsers.simpleExpr cursor = fail .expression cursor
  select (cursor : Cursor) : AtEnd cursor → parsers.select cursor = fail (.keyword .SELECT) cursor

theorem nested_failsAtEnd (retry : Retry) (depth : Nat) : (nested retry depth).FailsAtEnd := by
  cases depth with
  | zero =>
      exact ⟨fun _ _ _ => rfl, fun _ _ => rfl, fun _ _ _ => rfl, fun _ _ => rfl, fun _ _ => rfl⟩
  | succ depth =>
      exact ⟨fun minimum _ => expr_atEnd retry _ minimum, fun _ => predicate_atEnd _,
        fun minimum _ => bitExpr_atEnd _ minimum, fun _ => simpleExpr_atEnd _,
        fun _ => select_atEnd _⟩

theorem Nested.FailsAtEnd.agree (ends : origin.Ends) (fails : first.FailsAtEnd)
    (otherFails : second.FailsAtEnd) : Nested.Agree origin retry 0 first second where
  expr minimum := agree_atEnd ends (fails.expr minimum) (otherFails.expr minimum)
  predicate := agree_atEnd ends fails.predicate otherFails.predicate
  bitExpr minimum := agree_atEnd ends (fails.bitExpr minimum) (otherFails.bitExpr minimum)
  simpleExpr := agree_atEnd ends fails.simpleExpr otherFails.simpleExpr
  select := agree_atEnd ends fails.select otherFails.select

/-! ### All depths -/

/-- Nested parsers that may look as deep as there are tokens agree with those that try every
parenthesis again. -/
theorem nested_agree (ends : origin.Ends) (bound : Nat) :
    ∀ depth other, bound ≤ depth → bound ≤ other →
      Nested.Agree origin retry bound (nested retry depth) (nested .always other) := by
  induction bound using Nat.strongRecOn with
  | _ bound ih =>
      intro depth other deep otherDeep
      cases bound with
      | zero => exact (nested_failsAtEnd retry depth).agree ends (nested_failsAtEnd .always other)
      | succ bound =>
          obtain ⟨depth, rfl⟩ := Nat.exists_eq_succ_of_ne_zero (Nat.ne_zero_of_lt deep)
          obtain ⟨other, rfl⟩ := Nat.exists_eq_succ_of_ne_zero (Nat.ne_zero_of_lt otherDeep)
          have settled : Settled origin retry bound (nested retry depth) := by
            intro below least further enough
            exact ih below (by omega) depth further (by omega) enough
          have inner := settled bound (Nat.le_refl bound) other (by omega)
          exact ⟨expr_agree settled (by omega), predicate_agree inner, bitExpr_agree inner,
            simpleExpr_agree inner, (select_agree inner).wide⟩

theorem statementWith_agree (ends : origin.Ends) :
    Agree origin retry bound bound (statementWith retry) (statementWith .always) := by
  refine agree_remaining_bind fun depth least => ?_
  have inner : Nested.Agree origin retry depth (nested retry depth) (nested .always depth) :=
    nested_agree ends depth depth depth (Nat.le_refl _) (Nat.le_refl _)
  have finishes (tree : Select) : Agree origin retry depth depth
      (do if ← atKind .endOfInput then return tree else fail .endOfInput)
      (do if ← atKind .endOfInput then return tree else fail .endOfInput) :=
    (agree_atKind _).bind fun _ => agree_ite (fun _ => agree_pure tree) fun _ => agree_fail _
  refine Agree.mono ?_ (Nat.le_refl depth) least
  refine (select_agree inner).here.bind fun tree => (agree_atKind _).bind fun semicolon => ?_
  refine agree_ite (fun _ => ?_) fun _ => finishes tree
  exact agree_advance.here.bind fun _ => finishes tree

/-! ### Statement after statement -/

/-- The cursor after some statements, accepted or not, were parsed from the tokens of a source. -/
def afterStatements (source : Text) : Nat → Cursor
  | 0 => Cursor.ofTokens (tokenize source)
  | calls + 1 => (statement (afterStatements source calls)).2

/-- Before the first statement nothing is given up. -/
theorem ofTokens_valid (tokens : List Token) :
    Cursor.Valid (Cursor.ofTokens tokens) .never (Cursor.ofTokens tokens) := by
  refine ⟨⟨[], .refl _⟩, ?_⟩
  intro _ position member
  exact absurd member List.not_mem_nil

/-- Parsing statements gives up only what may be given up for good. -/
theorem afterStatements_valid (source : Text) (calls : Nat) :
    Cursor.Valid (Cursor.ofTokens (tokenize source)) .never (afterStatements source calls) := by
  induction calls with
  | zero => exact ofTokens_valid _
  | succ calls ih =>
      obtain ⟨outcome, later, _, run, _, validLater, _⟩ :=
        statementWith_agree (Cursor.ofTokens_ends source) _ [] ih (Nat.le_refl _)
      rw [afterStatements, statement, run]
      exact validLater

theorem statement_runs_alike (source : Text) (calls : Nat) (noted : List Nat) :
    ∃ outcome later left, statement (afterStatements source calls) = (outcome, later) ∧
      statementWith .always { afterStatements source calls with rejected := noted } =
        (outcome, { later with rejected := left }) := by
  obtain ⟨outcome, later, left, run, otherRun, _, _⟩ :=
    statementWith_agree (Cursor.ofTokens_ends source) _ noted (afterStatements_valid source calls)
      (Nat.le_refl _)
  exact ⟨outcome, later, left, run, otherRun⟩

/-- After any number of statements, the next one gives the same tree or the same error and comes to
the same place as it would if every parenthesis were tried again, whatever was noted as given up. -/
theorem statement_eq_plain (source : Text) (calls : Nat) (noted : List Nat) :
    let cursor := afterStatements source calls
    let plain := statementWith .always { cursor with rejected := noted }
    (statement cursor).1 = plain.1 ∧ (statement cursor).2.place = plain.2.place := by
  obtain ⟨outcome, later, left, run, otherRun⟩ := statement_runs_alike source calls noted
  simp only
  rw [run, otherRun]
  exact ⟨rfl, rfl⟩

/-- The cursor after some statements were parsed with every parenthesis tried again. -/
def afterPlainStatements (source : Text) : Nat → Cursor
  | 0 => Cursor.ofTokens (tokenize source)
  | calls + 1 => (statementWith .always (afterPlainStatements source calls)).2

/-- Run side by side from the start, both parsers come to the same places. -/
theorem afterStatements_place (source : Text) (calls : Nat) :
    (afterStatements source calls).place = (afterPlainStatements source calls).place := by
  induction calls with
  | zero => rfl
  | succ calls ih =>
      obtain ⟨outcome, later, left, run, otherRun⟩ :=
        statement_runs_alike source calls (afterPlainStatements source calls).rejected
      rw [← Cursor.eq_of_place ih] at otherRun
      rw [afterStatements, afterPlainStatements, run, otherRun]
      rfl

end AnnotatedSql.Grammar.Parse
