/-
This file shows that a statement is parsed step by step as its script says.
-/

import AnnotatedSql.Proofs.Grammar.Locality.Select
import AnnotatedSql.Proofs.Grammar.Script.Steps.Connective

namespace AnnotatedSql.Grammar

namespace Parse

/-- A name, if it makes up a whole order item. -/
def wholeName? : Parser (Option QualifiedName) := do
  let name ← qualifiedName
  let following ← kindAhead 0
  if Precedence.endsOrderItem following then return some name else return none

variable {cursor : Cursor}

theorem wholeName_run (cursor : Cursor) :
    wholeName? cursor = match qualifiedName cursor with
      | (.ok name, later) =>
          (.ok (if Precedence.endsOrderItem later.current.kind then some name else none), later)
      | (.error error, later) => (.error error, later) := by
  rw [wholeName?, bind_run]
  rcases qualifiedName cursor with ⟨error | name, later⟩
  · rfl
  · change (if Precedence.endsOrderItem later.current.kind = true then _ else _ : Parser _) later = _
    split <;> simp_all <;> rfl

/-- An order column is a whole name that is tried. -/
theorem orderColumn_tries (named : cursor.current.kind.isName = true) :
    orderColumn? cursor = Trial.settle .column cursor (wholeName? cursor) := by
  rw [orderColumn_run, if_pos named, wholeName_run]
  rcases qualifiedName cursor with ⟨error | name, later⟩
  · rfl
  · cases ends : Precedence.endsOrderItem later.current.kind <;> simp [afterName, ends, Trial.settle]

/-- Trying a name leaves the parser where the name ends. -/
theorem wholeName_place : (wholeName? cursor).2 = (qualifiedName cursor).2 := by
  rw [wholeName_run]
  rcases qualifiedName cursor with ⟨error | name, later⟩ <;> rfl

theorem identifier_of_name (named : cursor.current.kind.isName = true) :
    ∃ name, identifier cursor = (.ok name, cursor.advance) := by
  have looks : Parse.current cursor = (.ok cursor.current, cursor) := rfl
  rcases isName_cases named with found | found | ⟨word, found, unreserved⟩
  · exact ⟨_, by rw [identifier, bind_look looks, found]; rfl⟩
  · exact ⟨_, by rw [identifier, bind_look looks, found]; rfl⟩
  · refine ⟨⟨cursor.current.span, some cursor.current.span⟩, ?_⟩
    rw [identifier, bind_look looks, found]
    dsimp only
    rw [if_pos unreserved]
    rfl

/-- In front of a parenthesis, a name is a single token. -/
theorem qualifiedName_of_call (named : cursor.current.kind.isName = true)
    (opens : (cursor.ahead 1).kind = .symbol .leftParen) :
    (qualifiedName cursor).2 = cursor.advance := by
  obtain ⟨name, run⟩ := identifier_of_name named
  have next : cursor.advance.current.kind = .symbol .leftParen := by
    rw [Cursor.current, Cursor.advance_ahead]
    exact opens
  rw [qualifiedName, bind_look offset_run, bind_run, run]
  change ((if (cursor.advance.current.kind == .symbol .dot && _) = true then _ else _ : Parser _)
    cursor.advance).2 = _
  rw [next]
  rfl

end Parse

namespace Script

open Parse (Nested)

variable {origin : Cursor} {frame : Frame} {bound below depth : Nat} {nested : Nested}
  (ends : origin.Ends)
include ends

/-! ### Select items -/

theorem qualifiedShorthand_realises :
    Realises origin ⟨.selectItem, below + 1⟩ (below + 1) below qualifiedShorthand
      Parse.qualifiedShorthand := by
  have owner : Realises origin ⟨.selectItem, below + 1⟩ (below + 1) below label Parse.label :=
    ((identifier_performs ends).call_lower (by decide) rfl).bind fun _ => realises_pure _
  refine realises_offset.bind fun start => owner.bind fun owner => ?_
  refine realises_advance.here.bind fun _ => realises_advance.here.bind fun _ => ?_
  exact realises_closing start _

theorem exprItem_realises (inner : nested.Performs origin (below + 1)) :
    Realises origin ⟨.selectItem, below + 1⟩ (below + 1) below exprItem
      (Parse.exprItem nested) := by
  refine realises_offset.bind fun start => ?_
  refine ((inner.expr 0).call_lower (by decide) rfl).bind fun node => ?_
  refine ((itemLabel_performs ends).call_behind (Nat.lt_succ_self below)).bind fun itemLabel => ?_
  exact realises_closing start _

theorem selectItem_performs (inner : nested.Performs origin bound) (fails : nested.FailsAtEnd) :
    Performs origin .selectItem bound (Parse.selectItem nested) := by
  refine performs_of_steps ends stops_selectItem (Parse.selectItem_failsAtEnd fails)
    fun below few => ?_
  refine (realises_kindAhead 0).bind fun kind => (realises_kindAhead 1).bind fun following => ?_
  refine (realises_kindAhead 2).bind fun third => realises_ite (fun _ => ?_) fun _ => ?_
  · exact realises_terminal.bind fun star => realises_pure _
  · exact realises_ite (fun _ => qualifiedShorthand_realises ends)
      fun _ => exprItem_realises ends (inner.mono few)

theorem selectList_performs (inner : nested.Performs origin bound) (fails : nested.FailsAtEnd) :
    Performs origin .selectList bound (Parse.selectList nested) := by
  have missing : Parse.FailsAtEnd .expression (Parse.selectList nested) :=
    Parse.FailsAtEnd.after_offset fun _ =>
      (Parse.commaList_failsAtEnd (Parse.selectItem_failsAtEnd fails)).bind
  refine performs_of_steps ends stops_selectList missing fun below few => ?_
  have items : Performs origin (.list .selectItem) (below + 1)
      (Parse.commaList (Parse.selectItem nested)) :=
    commaList_performs ends (Parse.selectItem_failsAtEnd fails) fun fewer less =>
      (selectItem_performs ends (inner.mono (by omega)) fails).call_lower (by decide) rfl
  refine realises_offset.bind fun start => (items.call_lower (by decide) rfl).bind fun items => ?_
  exact realises_closing start _

/-! ### Order items -/

theorem wholeName_realises :
    Realises origin ⟨.orderItem, below + 1⟩ (below + 1) below wholeName? Parse.wholeName? := by
  refine ((qualifiedName_performs ends).call_lower (by decide) rfl).bind fun name => ?_
  refine (realises_kindAhead 0).bind fun following => ?_
  exact realises_ite (fun _ => realises_pure _) fun _ => realises_pure _

/-- A name that is no whole item comes no further than the expression that is parsed instead. -/
theorem column_reaches {cursor final : Cursor} {noted : List Nat} {events : List Event}
    {minimum : Nat} {outcome : Except SyntaxError Expr} {least : Nat}
    (valid : Cursor.Valid origin .never cursor)
    (again : Cursor.Valid origin .never { cursor with rejected := noted })
    (named : cursor.current.kind.isName = true)
    (run : Runs frame (expr minimum) { cursor with rejected := noted } events outcome final)
    (confined : Confined least events final) :
    least ≤ (Parse.wholeName? cursor).2.position := by
  rw [Parse.wholeName_place]
  rcases name_reaches run confined named with ⟨opens, reached⟩ | ⟨_, _, _, name, reached⟩
  · rw [Cursor.advance_position] at reached
    rw [Parse.qualifiedName_of_call named opens, Cursor.advance_position]
    exact reached
  · obtain ⟨⟨⟨_, runs, _⟩, _⟩, _⟩ := qualifiedName_performs ends _ again (Nat.le_refl _)
    obtain ⟨_, rfl, rfl⟩ := name.unique runs
    obtain ⟨_, later, _, first, second, _⟩ :=
      Parse.qualifiedName_agree cursor noted valid (Nat.le_refl _)
    rw [second] at reached
    rw [first]
    exact reached

/-- An order item that is no number is a name or an expression. -/
theorem columnOrExpr_realises (inner : nested.Performs origin (below + 1)) :
    Realises origin ⟨.orderItem, below + 1⟩ (below + 1) below
      (do match ← orderColumn? with
          | some column => return (some column, none, none)
          | none =>
              let expr ← call (.expr 0)
              return ((none, none, some expr) : Option QualifiedName × Option Span × Option Expr))
      (do match ← Parse.orderColumn? with
          | some column => return (some column, none, none)
          | none =>
              let expr ← nested.expr 0
              return (none, none, some expr)) := by
  intro cursor valid few
  have alternative : Realises origin ⟨.orderItem, below + 1⟩ (below + 1) below
      (do let expr ← call (.expr 0)
          return ((none, none, some expr) : Option QualifiedName × Option Span × Option Expr))
      (do let expr ← nested.expr 0; return (none, none, some expr)) :=
    ((inner.expr 0).call_lower (by decide) rfl).bind fun node => realises_pure _
  refine course_look ?_
  change Course _ _ _ (Script.bind (if cursor.current.kind.isName = true then _ else give none) _) _ _
  rw [Parse.bind_run]
  by_cases named : cursor.current.kind.isName = true
  · rw [if_pos named, Parse.orderColumn_tries named]
    have trial := wholeName_realises ends cursor valid few
    rcases tried : Parse.wholeName? cursor with ⟨error | column | column, later⟩ <;>
      rw [tried] at trial
    · exact course_attemptFails Trial.column trial rfl
    · have again : Cursor.Valid origin .never { cursor with rejected := later.rejected } :=
        ⟨valid.follows.giving _, trial.valid.remembers⟩
      have next := alternative _ again few
      refine course_attempt Trial.column trial rfl next (Nat.le_refl _) ?_
      obtain ⟨events, runs, within⟩ := next.runs
      obtain ⟨_, _, _, node, within, _⟩ :=
        runs.of_enter ⟨fun event member => (within event member).least, Nat.le_refl _⟩
      have reached := column_reaches ends valid again named node within
      rw [tried] at reached
      exact reached
    · exact course_attempt Trial.column trial rfl
        (realises_pure _ later trial.valid (trial.leaves _ rfl)) trial.onward (Nat.le_refl _)
  · rw [if_neg named, Parse.orderColumn_run, if_neg named]
    exact alternative cursor valid few

theorem orderTarget_realises (inner : nested.Performs origin (below + 1)) :
    Realises origin ⟨.orderItem, below + 1⟩ (below + 1) below orderTarget
      (Parse.orderTarget nested) := by
  refine (realises_kindAhead 0).bind fun kind => (realises_kindAhead 1).bind fun following => ?_
  refine realises_ite (fun _ => ?_) fun _ => columnOrExpr_realises ends inner
  exact realises_terminal.bind fun number => realises_pure _

omit ends in
theorem direction_realises : Realises origin frame below below direction Parse.direction := by
  refine (realises_keyword _).bind fun ascending => ?_
  cases ascending with
  | some span => exact realises_pure _
  | none => exact (realises_keyword _).bind fun descending => realises_pure _

theorem orderItem_performs (inner : nested.Performs origin bound) (fails : nested.FailsAtEnd) :
    Performs origin .orderItem bound (Parse.orderItem nested) := by
  have missing : Parse.FailsAtEnd .expression (Parse.orderItem nested) :=
    Parse.FailsAtEnd.after_offset fun _ => (Parse.orderTarget_failsAtEnd fails).bind
  refine performs_of_steps ends stops_orderItem missing fun below few => ?_
  refine realises_offset.bind fun start => ?_
  refine (orderTarget_realises ends (inner.mono few)).bind fun target => ?_
  refine direction_realises.bind fun directions => ?_
  exact realises_closing start _

/-! ### Clauses -/

section
variable (inner : nested.Performs origin below) (behind : below < frame.position)
include inner behind

theorem orderClause_realises (fails : nested.FailsAtEnd) (word : Keyword) :
    Realises origin frame below below (orderClause? word) (Parse.orderClause? nested word) := by
  have items : Performs origin (.list .orderItem) below
      (Parse.commaList (Parse.orderItem nested)) :=
    commaList_performs ends
      (Parse.FailsAtEnd.after_offset fun _ => (Parse.orderTarget_failsAtEnd fails).bind)
      fun fewer less =>
        (orderItem_performs ends (inner.mono (by omega)) fails).call_lower (by decide) rfl
  refine (realises_atKind _).bind fun found =>
    realises_ite (fun _ => ?_) fun _ => realises_pure none
  refine realises_offset.bind fun start => realises_advance.here.bind fun _ => ?_
  refine (realises_expectKeyword _).here.bind fun byWord => ?_
  refine (items.call_behind behind).bind fun items => ?_
  exact realises_closing start _

omit ends in
theorem conditionClause_realises (word : Keyword) :
    Realises origin frame below below (conditionClause? word)
      (Parse.conditionClause? nested word) := by
  refine (realises_atKind _).bind fun found =>
    realises_ite (fun _ => ?_) fun _ => realises_pure none
  refine realises_offset.bind fun start => realises_advance.here.bind fun _ => ?_
  refine ((inner.expr 0).call_behind behind).bind fun node => ?_
  exact realises_closing start _

omit inner in
theorem tables_realises : Realises origin frame below below tables? Parse.tables? :=
  realises_led ((nameList_performs ends).call_behind behind)

omit ends inner behind in
theorem distinct_realises : Realises origin frame below below distinct? Parse.distinct? := by
  refine (realises_keyword _).bind fun distinct => ?_
  cases distinct with
  | some span => exact realises_pure _
  | none => exact (realises_keyword _).bind fun all => realises_pure none

end

theorem select_performs (inner : nested.Performs origin bound) (fails : nested.FailsAtEnd) :
    Performs origin .select (bound + 1) (Parse.select nested) := by
  refine performs_of_steps ends stops_select (fun cursor => Parse.select_atEnd nested)
    fun below few => ?_
  have deeper := inner.mono (Nat.le_of_lt_succ few)
  have behind : below < (⟨.select, below + 1⟩ : Frame).position := Nat.lt_succ_self below
  refine realises_offset.bind fun start => (realises_expectKeyword _).bind fun word => ?_
  refine distinct_realises.bind fun distinct => ?_
  refine ((selectList_performs ends deeper fails).call_behind behind).bind fun items => ?_
  refine (tables_realises ends behind).bind fun tables => ?_
  refine (conditionClause_realises deeper behind _).bind fun condition => ?_
  refine (orderClause_realises ends deeper behind fails _).bind fun grouping => ?_
  refine (conditionClause_realises deeper behind _).bind fun having_ => ?_
  refine (orderClause_realises ends deeper behind fails _).bind fun ordering => ?_
  exact realises_closing start _

/-! ### All depths -/

/-- Nested parsers that may look as deep as there are tokens run their routines. -/
theorem nested_performs (depth : Nat) :
    (Parse.nested .never depth).Performs origin depth := by
  induction depth with
  | zero =>
      have fails := Parse.nested_failsAtEnd .never 0
      have none {below : Nat} (less : below < 0) : False := Nat.not_lt_zero below less
      exact ⟨fun minimum => performs_of_steps ends (stops_expr minimum) (fails.expr minimum)
          fun _ less => (none less).elim,
        performs_of_steps ends stops_predicate fails.predicate fun _ less => (none less).elim,
        fun minimum => performs_of_steps ends (stops_bitExpr minimum) (fails.bitExpr minimum)
          fun _ less => (none less).elim,
        performs_of_steps ends stops_simpleExpr fails.simpleExpr fun _ less => (none less).elim,
        performs_of_steps ends stops_select fails.select fun _ less => (none less).elim⟩
  | succ depth inner =>
      have fails := Parse.nested_failsAtEnd .never depth
      exact ⟨expr_performs ends inner, predicate_performs ends inner fails,
        bitExpr_performs ends inner fails, simpleExpr_performs ends inner fails,
        select_performs ends inner fails⟩

/-- A statement is parsed step by step as its script says. -/
theorem statement_performs : Performs origin .statement bound Parse.statement := by
  refine performs_remaining_bind fun rounds _ => ?_
  have fails : Parse.FailsAtEnd (.keyword .SELECT) (Parse.select (Parse.nested .never rounds)) :=
    fun cursor => Parse.select_atEnd _
  refine performs_of_steps ends stops_statement fails.bind fun below few => ?_
  have query := (select_performs ends (nested_performs ends rounds)
    (Parse.nested_failsAtEnd .never rounds)).mono (Nat.succ_le_succ (Nat.le_of_lt few))
  have finishes (tree : Select) : Realises origin ⟨.statement, below + 1⟩ below below
      (do if ← atKind .endOfInput then return tree else fail .endOfInput)
      (do if ← Parse.atKind .endOfInput then return tree else Parse.fail .endOfInput) :=
    (realises_atKind _).bind fun _ => realises_ite (fun _ => realises_pure tree)
      fun _ => realises_fail _
  refine (query.call_lower (by decide) rfl).bind fun tree => ?_
  refine (realises_atKind _).bind fun semicolon => ?_
  refine realises_ite (fun _ => ?_) fun _ => finishes tree
  exact realises_advance.here.bind fun _ => finishes tree

end Script

end AnnotatedSql.Grammar
