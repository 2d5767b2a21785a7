/-
This file says when a parser takes the steps of a script, and that it then uses routines only where
fewer tokens are left or at a lower level, and ends at the furthest place it has come to.
-/

import AnnotatedSql.Proofs.Grammar.Script.Run

namespace AnnotatedSql.Grammar

/-- One routine uses another where fewer tokens are left, or at a lower level where as many are. -/
def Frame.Below (callee caller : Frame) : Prop :=
  callee.position < caller.position ∨
    callee.position = caller.position ∧ callee.routine.level < caller.routine.level

/-- A routine that succeeds has consumed a token, unless it is for a part that may be absent. -/
def Frame.Progresses (frame : Frame) (later : Nat) : Prop :=
  later ≤ frame.position ∧ (frame.routine.isOptional = false → later < frame.position)

/-- What is used is below what uses it, what succeeds progresses, and after something was tried in
vain the parser is back where it was. -/
def Event.Descends : Event → Prop
  | moved _ => True
  | entered caller callee => callee.Below caller
  | returned frame position => frame.Progresses position
  | resumed start found position => found = false → position = start

/-- An event that descends happens between two places, given by the tokens left there. -/
structure Event.Within (least most : Nat) (event : Event) : Prop where
  descends : event.Descends
  least : least ≤ event.position
  most : event.position ≤ most

theorem Event.Within.mono {least most fewer more : Nat} {event : Event}
    (within : event.Within least most) (fewerLeast : fewer ≤ least) (moreMost : most ≤ more) :
    event.Within fewer more :=
  ⟨within.descends, Nat.le_trans fewerLeast within.least, Nat.le_trans within.most moreMost⟩

/-- From a cursor, the steps of a script come to the given end: on the way the parser never looks
past the place where it ends, and after a value at most `after` tokens are left. -/
structure Course {Value : Type} (origin : Cursor) (frame : Frame) (after : Nat)
    (script : Script Value) (cursor : Cursor) (run : Except SyntaxError Value × Cursor) : Prop where
  runs : ∃ events, Runs frame script cursor events run.1 run.2 ∧
    ∀ event ∈ events, event.Within run.2.position cursor.position
  valid : Cursor.Valid origin .never run.2
  onward : run.2.position ≤ cursor.position
  leaves : ∀ value, run.1 = .ok value → run.2.position ≤ after

namespace Script

variable {Value Result : Type} {origin : Cursor} {frame : Frame}
  {before middle after below bound : Nat}

/-- With at most `before` tokens left, the parser takes the steps of the script; after a value at
most `after` tokens are left. -/
def Realises (origin : Cursor) (frame : Frame) (before after : Nat) (script : Script Value)
    (parser : Parser Value) : Prop :=
  ∀ cursor, Cursor.Valid origin .never cursor → cursor.position ≤ before →
    Course origin frame after script cursor (parser cursor)

section
variable {script : Script Value} {parser : Parser Value}

theorem Realises.mono {fewer more : Nat}
    (realises : Realises origin frame before after script parser) (fewerBefore : fewer ≤ before)
    (moreAfter : after ≤ more) : Realises origin frame fewer more script parser := by
  intro cursor valid few
  obtain ⟨runs, validLater, onward, leaves⟩ := realises cursor valid (by omega)
  exact ⟨runs, validLater, onward, fun value found => Nat.le_trans (leaves value found) moreAfter⟩

/-- What consumes a token leaves no more where fewer are left. -/
theorem Realises.here (realises : Realises origin frame (bound + 1) bound script parser) :
    Realises origin frame bound bound script parser :=
  realises.mono (Nat.le_succ bound) (Nat.le_refl bound)

theorem Realises.wide (realises : Realises origin frame before bound script parser) :
    Realises origin frame before (bound + 1) script parser :=
  realises.mono (Nat.le_refl before) (Nat.le_succ bound)

theorem Realises.bind {rest : Value → Script Result} {next : Value → Parser Result}
    (start : Realises origin frame before middle script parser)
    (realises : ∀ value, Realises origin frame middle after (rest value) (next value)) :
    Realises origin frame before after (script >>= rest) (parser >>= next) := by
  intro cursor valid few
  obtain ⟨⟨events, runs, within⟩, validLater, onward, leaves⟩ := start cursor valid few
  rw [Parse.bind_run]
  rcases run : parser cursor with ⟨error | value, place⟩
  · rw [run] at runs within validLater onward
    exact ⟨⟨events, runs.bind_error rfl, within⟩, validLater, onward, by simp⟩
  · rw [run] at runs within validLater onward leaves
    obtain ⟨⟨others, runsNext, withinNext⟩, validEnd, further, leavesEnd⟩ :=
      realises value place validLater (leaves value rfl)
    refine ⟨⟨events ++ others, runs.bind rfl runsNext, ?_⟩, validEnd, Nat.le_trans further onward,
      leavesEnd⟩
    intro event member
    rcases List.mem_append.mp member with member | member
    · exact (within event member).mono further (Nat.le_refl _)
    · exact (withinNext event member).mono (Nat.le_refl _) onward

/-- Parsers that do the same take the same steps. -/
theorem Realises.congr {other : Parser Value} (ends : origin.Ends)
    (same : ∀ {cursor : Cursor}, cursor.Ends → parser cursor = other cursor)
    (realises : Realises origin frame before after script other) :
    Realises origin frame before after script parser := by
  intro cursor valid few
  obtain ⟨_, reads⟩ := valid.follows
  rw [same (reads.ends ends)]
  exact realises cursor valid few

/-- How many tokens are left is no step; what follows may use that as many are left. -/
theorem realises_remaining_bind {next : Nat → Parser Value}
    (realises : ∀ rounds ≤ before, Realises origin frame rounds after script (next rounds)) :
    Realises origin frame before after script (Parse.remaining >>= next) := by
  intro cursor valid few
  rw [Parse.bind_look Parse.remaining_run]
  exact realises cursor.position few cursor valid (Nat.le_refl cursor.position)

end

/-! ### Steps -/

theorem realises_pure (value : Value) :
    Realises origin frame bound bound (pure value) (pure value) :=
  fun _ valid few => ⟨⟨[], .give, by simp⟩, valid, Nat.le_refl _, fun _ _ => few⟩

theorem realises_fail (expected : Expected) :
    Realises origin frame before after (fail expected : Script Value) (Parse.fail expected) :=
  fun _ valid _ => ⟨⟨[], .stop, by simp⟩, valid, Nat.le_refl _, by rintro _ ⟨⟩⟩

/-- A parser that only looks at its place is one step. -/
theorem realises_look {parser : Parser Value} {seen : View → Value}
    (run : ∀ cursor, parser cursor = (.ok (seen cursor.view), cursor)) :
    Realises origin frame bound bound (look fun view => give (seen view)) parser := by
  intro cursor valid few
  rw [run]
  exact ⟨⟨[], .look .give, by simp⟩, valid, Nat.le_refl _, fun _ _ => few⟩

theorem realises_current : Realises origin frame bound bound current Parse.current :=
  realises_look fun _ => rfl

theorem realises_kindAhead (distance : Fin 3) :
    Realises origin frame bound bound (kindAhead distance) (Parse.kindAhead distance) :=
  realises_look fun _ => rfl

theorem course_look {cursor : Cursor} {next : View → Script Value}
    {run : Except SyntaxError Value × Cursor}
    (course : Course origin frame after (next cursor.view) cursor run) :
    Course origin frame after (look next) cursor run := by
  obtain ⟨⟨events, runs, within⟩, validLater, onward, leaves⟩ := course
  exact ⟨⟨events, .look runs, within⟩, validLater, onward, leaves⟩

/-- What follows a kind that is seen may use that it is seen. -/
theorem course_kindAhead_bind {cursor : Cursor} {rest : TokenKind → Script Value}
    {next : TokenKind → Parser Value} (distance : Fin 3)
    (course : Course origin frame after (rest (cursor.ahead distance).kind) cursor
      (next (cursor.ahead distance).kind cursor)) :
    Course origin frame after (kindAhead distance >>= rest) cursor
      ((Parse.kindAhead distance >>= next) cursor) := by
  rw [Parse.bind_look (Parse.kindAhead_run distance)]
  exact course_look course

theorem settle_none {trial : Trial} {cursor place : Cursor}
    {tried : Except SyntaxError (Option trial.Found) × Cursor}
    (settled : trial.settle cursor tried = (.ok none, place)) :
    place.position = cursor.position := by
  cases trial <;> rcases tried with ⟨error | found | found, later⟩ <;> cases settled <;> rfl

/-- Something is tried; what follows comes at least as far as the trial. -/
theorem course_attempt (trial : Trial) {rest : Option trial.Found → Script Value}
    {cursor place : Cursor} {tried : Except SyntaxError (Option trial.Found) × Cursor}
    {found : Option trial.Found} {run : Except SyntaxError Value × Cursor}
    (course : Course origin frame before trial.body cursor tried)
    (settled : trial.settle cursor tried = (.ok found, place))
    (next : Course origin frame after (rest found) place run)
    (back : place.position ≤ cursor.position) (reached : run.2.position ≤ tried.2.position) :
    Course origin frame after (attempt trial rest) cursor run := by
  obtain ⟨⟨events, runs, within⟩, _, _, _⟩ := course
  obtain ⟨⟨others, runsNext, withinNext⟩, validEnd, onward, leaves⟩ := next
  refine ⟨⟨_, .attempt runs settled runsNext, ?_⟩, validEnd, Nat.le_trans onward back, leaves⟩
  refine List.forall_mem_append.mpr ⟨?_, List.forall_mem_cons.mpr ⟨?_, ?_⟩⟩
  · exact fun event member => (within event member).mono reached (Nat.le_refl _)
  · refine ⟨fun missing => ?_, onward, back⟩
    cases found with
    | none => exact settle_none settled
    | some value => exact absurd missing (by simp)
  · exact fun event member => (withinNext event member).mono (Nat.le_refl _) back

/-- Something is tried whose error stands. -/
theorem course_attemptFails (trial : Trial) {rest : Option trial.Found → Script Value}
    {cursor later : Cursor} {result : Except SyntaxError (Option trial.Found)} {error : SyntaxError}
    (course : Course origin frame before trial.body cursor (result, later))
    (settled : trial.settle cursor (result, later) = (.error error, later)) :
    Course origin frame after (attempt trial rest) cursor (.error error, later) := by
  obtain ⟨⟨events, runs, within⟩, validLater, onward, _⟩ := course
  exact ⟨⟨events, .attemptFails runs settled, within⟩, validLater, onward, by rintro _ ⟨⟩⟩

theorem realises_offset : Realises origin frame bound bound offset Parse.offset :=
  realises_look fun _ => rfl

theorem realises_spanFrom (start : Nat) :
    Realises origin frame bound bound (spanFrom start) (Parse.spanFrom start) :=
  realises_look fun _ => rfl

theorem realises_atKind (kind : TokenKind) :
    Realises origin frame bound bound (atKind kind) (Parse.atKind kind) :=
  realises_look fun _ => rfl

theorem realises_advance : Realises origin frame (bound + 1) bound advance Parse.advance := by
  intro cursor valid few
  have moved := cursor.advance_position
  have onward : cursor.advance.position ≤ cursor.position := by omega
  refine ⟨⟨[.moved cursor.advance.position], .step .give, ?_⟩, valid.advance, onward, ?_⟩
  · rintro event member
    obtain rfl := List.mem_singleton.mp member
    exact ⟨trivial, Nat.le_refl _, onward⟩
  · intro _ _
    change cursor.advance.position ≤ bound
    omega

theorem realises_terminal : Realises origin frame (bound + 1) bound terminal Parse.terminal :=
  realises_current.bind fun token => realises_advance.bind fun _ => realises_pure token.span

theorem realises_ite {condition : Prop} [Decidable condition] {first second : Script Value}
    {third fourth : Parser Value}
    (holds : condition → Realises origin frame before after first third)
    (fails : ¬ condition → Realises origin frame before after second fourth) :
    Realises origin frame before after (if condition then first else second)
      (if condition then third else fourth) := by
  split
  case isTrue found => exact holds found
  case isFalse missing => exact fails missing

theorem realises_expectKind (kind : TokenKind) :
    Realises origin frame (bound + 1) bound (expectKind kind) (Parse.expectKind kind) :=
  (realises_atKind kind).bind fun _ =>
    realises_ite (fun _ => realises_terminal) fun _ => realises_fail _

theorem realises_expectKeyword (word : Keyword) :
    Realises origin frame (bound + 1) bound (expectKeyword word) (Parse.expectKeyword word) :=
  (realises_atKind _).bind fun _ =>
    realises_ite (fun _ => realises_terminal) fun _ => realises_fail _

theorem realises_keyword (word : Keyword) :
    Realises origin frame bound bound (keyword? word) (Parse.keyword? word) := by
  refine (realises_atKind _).bind fun found =>
    realises_ite (fun _ => ?_) fun _ => realises_pure none
  exact realises_terminal.here.bind fun span => realises_pure (some span)

/-- Every routine ends with the span of what it has read. -/
theorem realises_closing (start : Nat) (node : Span → Value) :
    Realises origin frame bound bound (do let span ← spanFrom start; return node span)
      (do let span ← Parse.spanFrom start; return node span) :=
  (realises_spanFrom start).bind fun span => realises_pure (node span)

/-- A part that a keyword leads to. -/
theorem realises_led {word : Keyword} {script : Script Value} {parser : Parser Value}
    (realises : Realises origin frame bound bound script parser) :
    Realises origin frame bound bound
      (do if ← atKeyword word then
            advance
            let part ← script
            return some part
          else
            return none)
      (do if ← Parse.atKeyword word then
            Parse.advance
            let part ← parser
            return some part
          else
            return none) := by
  refine (realises_atKind _).bind fun found => realises_ite (fun _ => ?_) fun _ => realises_pure none
  exact realises_advance.here.bind fun _ => realises.bind fun part => realises_pure (some part)

/-! ### Routines -/

/-- From a cursor, the parser runs the routine, which progresses if it succeeds. -/
structure PerformsAt (origin : Cursor) (routine : Routine) (parser : Parser routine.Result)
    (cursor : Cursor) : Prop where
  course : Course origin ⟨routine, cursor.position⟩ cursor.position routine.body cursor
    (parser cursor)
  progresses : ∀ value, (parser cursor).1 = .ok value →
    Frame.Progresses ⟨routine, cursor.position⟩ (parser cursor).2.position

/-- With at most so many tokens left, the parser runs the routine. -/
def Performs (origin : Cursor) (routine : Routine) (bound : Nat) (parser : Parser routine.Result) :
    Prop :=
  ∀ cursor, Cursor.Valid origin .never cursor → cursor.position ≤ bound →
    PerformsAt origin routine parser cursor

section
variable {routine caller : Routine} {parser : Parser routine.Result} {cursor : Cursor}

theorem Performs.mono {fewer : Nat} (performs : Performs origin routine bound parser)
    (least : fewer ≤ bound) : Performs origin routine fewer parser :=
  fun cursor valid few => performs cursor valid (Nat.le_trans few least)

/-- The use of a routine below the one that is run. -/
theorem PerformsAt.call (performs : PerformsAt origin routine parser cursor)
    (below : Frame.Below ⟨routine, cursor.position⟩ frame) :
    Course origin frame cursor.position (call routine) cursor (parser cursor) := by
  obtain ⟨⟨⟨inner, runs, within⟩, validLater, onward, _⟩, progresses⟩ := performs
  refine ⟨?_, validLater, onward, fun _ _ => onward⟩
  have entered : (Event.entered frame ⟨routine, cursor.position⟩).Within
      (parser cursor).2.position cursor.position := ⟨below, onward, Nat.le_refl _⟩
  rcases run : parser cursor with ⟨error | value, later⟩
  · rw [run] at runs within entered
    exact ⟨_, .enterFails runs, List.forall_mem_cons.mpr ⟨entered, within⟩⟩
  · rw [run] at runs within entered onward progresses
    refine ⟨_, .enter runs .give, List.forall_mem_cons.mpr ⟨entered, ?_⟩⟩
    intro event member
    rcases List.mem_append.mp member with member | member
    · exact within event member
    · obtain rfl := List.mem_singleton.mp member
      exact ⟨progresses value rfl, Nat.le_refl _, onward⟩

/-- A routine may be used where a token was consumed since the one that uses it started. -/
theorem Performs.call_behind (performs : Performs origin routine bound parser)
    (behind : bound < frame.position) :
    Realises origin frame bound bound (call routine) parser := by
  intro cursor valid few
  have below : Frame.Below ⟨routine, cursor.position⟩ frame :=
    .inl (Nat.lt_of_le_of_lt few behind)
  obtain ⟨runs, validLater, onward, _⟩ := (performs cursor valid few).call below
  exact ⟨runs, validLater, onward, fun _ _ => Nat.le_trans onward few⟩

/-- At the place where a routine started, one of a lower level may be used. -/
theorem PerformsAt.call_lower (performs : PerformsAt origin routine parser cursor)
    (lower : routine.level < caller.level) (consumes : routine.isOptional = false)
    (few : cursor.position ≤ bound + 1) :
    Course origin ⟨caller, bound + 1⟩ bound (Script.call routine) cursor (parser cursor) := by
  have below : Frame.Below ⟨routine, cursor.position⟩ ⟨caller, bound + 1⟩ :=
    (Nat.lt_or_eq_of_le few).imp id fun same => ⟨same, lower⟩
  obtain ⟨runs, validLater, onward, _⟩ := performs.call below
  refine ⟨runs, validLater, onward, fun value found => ?_⟩
  have fewer := (performs.progresses value found).2 consumes
  exact Nat.le_of_lt_succ (Nat.lt_of_lt_of_le fewer few)

theorem Performs.call_lower (performs : Performs origin routine (bound + 1) parser)
    (lower : routine.level < caller.level) (consumes : routine.isOptional = false) :
    Realises origin ⟨caller, bound + 1⟩ (bound + 1) bound (call routine) parser :=
  fun cursor valid few => (performs cursor valid few).call_lower lower consumes few

/-- Where a token is left, the routine is run if its steps are the parser's. -/
theorem Realises.performsAt
    (realises : Realises origin ⟨routine, below + 1⟩ (below + 1) below routine.body parser)
    (valid : Cursor.Valid origin .never cursor) (left : cursor.position = below + 1) :
    PerformsAt origin routine parser cursor := by
  obtain ⟨runs, validLater, onward, leaves⟩ := realises cursor valid (Nat.le_of_eq left)
  rw [← left] at runs
  refine ⟨⟨runs, validLater, onward, fun _ _ => onward⟩, fun value found => ⟨onward, fun _ => ?_⟩⟩
  have fewer := leaves value found
  change (parser cursor).2.position < cursor.position
  omega

/-- How many tokens are left is no step of a routine, either. -/
theorem performs_remaining_bind {next : Nat → Parser routine.Result}
    (performs : ∀ rounds ≤ bound, Performs origin routine rounds (next rounds)) :
    Performs origin routine bound (Parse.remaining >>= next) := by
  intro cursor valid few
  obtain ⟨course, progresses⟩ :=
    performs cursor.position few cursor valid (Nat.le_refl cursor.position)
  constructor <;> rw [Parse.bind_look Parse.remaining_run] <;> assumption

end

/-! ### The end of the tokens -/

/-- A place where no token is left. -/
def lastPlace (text : Text) (span : Span) (lastStop : Option Nat) (rejected : List Nat) : Cursor :=
  ⟨[], ⟨.endOfInput, text, span⟩, lastStop, rejected⟩

theorem atEnd_lastPlace {cursor : Cursor} (atEnd : Parse.AtEnd cursor) :
    ∃ text span lastStop rejected, cursor = lastPlace text span lastStop rejected := by
  obtain ⟨unread, ⟨kind, text, span⟩, lastStop, rejected⟩ := cursor
  obtain ⟨ends, rfl⟩ := atEnd
  obtain rfl : kind = .endOfInput := ends
  exact ⟨text, span, lastStop, rejected, rfl⟩

/-- Where no token is left, the routine stops after it used nothing but routines of lower levels. -/
def Stops (routine : Routine) (expected : Expected) : Prop :=
  ∀ text span lastStop rejected, ∃ events,
    Runs ⟨routine, 0⟩ routine.body (lastPlace text span lastStop rejected) events
      (.error (.atToken expected ⟨.endOfInput, text, span⟩))
      (lastPlace text span lastStop rejected) ∧
    ∀ event ∈ events, event.Within 0 0

section
variable {routine caller : Routine} {expected : Expected}

/-- A routine that first uses another one stops where this one does. -/
theorem Stops.through (stops : Stops routine expected) (lower : routine.level < caller.level)
    (starts : ∀ {text span lastStop rejected events error},
      Runs ⟨routine, 0⟩ routine.body (lastPlace text span lastStop rejected) events (.error error)
        (lastPlace text span lastStop rejected) →
      Runs ⟨caller, 0⟩ caller.body (lastPlace text span lastStop rejected)
        (.entered ⟨caller, 0⟩ ⟨routine, 0⟩ :: events) (.error error)
        (lastPlace text span lastStop rejected)) : Stops caller expected := by
  intro text span lastStop rejected
  obtain ⟨events, runs, within⟩ := stops text span lastStop rejected
  refine ⟨_, starts runs, List.forall_mem_cons.mpr ⟨?_, within⟩⟩
  exact ⟨.inr ⟨rfl, lower⟩, Nat.le_refl _, Nat.le_refl _⟩

theorem stops_identifier : Stops .identifier .identifier :=
  fun _ _ _ _ => ⟨[], .look .stop, by simp⟩

theorem stops_qualifiedName : Stops .qualifiedName .identifier :=
  stops_identifier.through (by decide) fun run => .look (.enterFails run)

theorem stops_simpleExpr : Stops .simpleExpr .expression :=
  fun _ _ _ _ => ⟨[], .look .stop, by simp⟩

theorem stops_bitExpr (minimum : Nat) : Stops (.bitExpr minimum) .expression :=
  stops_simpleExpr.through (by simp [Routine.level]) fun run =>
    .look (.enterFails run)

theorem stops_predicate : Stops .predicate .expression :=
  (stops_bitExpr 0).through (by decide) fun run => .look (.enterFails run)

theorem stops_booleanPrimary : Stops .booleanPrimary .expression :=
  stops_predicate.through (by decide) fun run => .look (.enterFails run)

theorem stops_operand : Stops .operand .expression :=
  stops_booleanPrimary.through (by decide) fun run => .look (.enterFails run)

theorem stops_expr (minimum : Nat) : Stops (.expr minimum) .expression :=
  stops_operand.through (by simp [Routine.level]) fun run => .look (.enterFails run)

theorem stops_selectItem : Stops .selectItem .expression :=
  (stops_expr 0).through (by decide) fun run =>
    .look (.look (.look (.look (.enterFails run))))

theorem stops_orderItem : Stops .orderItem .expression :=
  (stops_expr 0).through (by decide) fun run =>
    .look (.look (.look (.look (.enterFails run))))

theorem stops_list (item : Item) : Stops (.list item) item.expected := by
  cases item with
  | selectItem => exact stops_selectItem.through (by decide) fun run => .enterFails run
  | name => exact stops_qualifiedName.through (by decide) fun run => .enterFails run
  | orderItem => exact stops_orderItem.through (by decide) fun run => .enterFails run
  | expr => exact (stops_expr 0).through (by decide) fun run => .enterFails run

theorem stops_arguments : Stops .arguments .expression :=
  (stops_expr 0).through (by decide) fun run => .enterFails run

theorem stops_selectList : Stops .selectList .expression :=
  (stops_list .selectItem).through (by decide) fun run => .look (.enterFails run)

theorem stops_nameList : Stops .nameList .identifier :=
  (stops_list .name).through (by decide) fun run => .look (.enterFails run)

theorem stops_subquery : Stops .subquery (.token (.symbol .leftParen)) :=
  fun _ _ _ _ => ⟨[], .look (.look .stop), by simp⟩

theorem stops_dataType : Stops .dataType .dataType :=
  fun _ _ _ _ => ⟨[], .look (.look .stop), by simp⟩

theorem stops_regular : Stops .regular .identifier :=
  stops_identifier.through (by decide) fun run => .look (.enterFails run)

/-- A name that is missing is not consumed, and no parenthesis follows. -/
theorem within_moved : ∀ event ∈ [Event.moved 0], event.Within 0 0 := by
  rintro event member
  obtain rfl := List.mem_singleton.mp member
  exact ⟨trivial, Nat.le_refl _, Nat.le_refl _⟩

theorem stops_aggregation : Stops .aggregation (.token (.symbol .leftParen)) :=
  fun _ _ _ _ => ⟨_, .look (.look (.step (.look .stop))), within_moved⟩

theorem stops_cast : Stops .cast (.token (.symbol .leftParen)) :=
  fun _ _ _ _ => ⟨_, .look (.step (.look .stop)), within_moved⟩

theorem stops_substring : Stops .substring (.token (.symbol .leftParen)) :=
  fun _ _ _ _ => ⟨_, .look (.step (.look .stop)), within_moved⟩

theorem stops_extract : Stops .extract (.token (.symbol .leftParen)) :=
  fun _ _ _ _ => ⟨_, .look (.step (.look .stop)), within_moved⟩

theorem stops_trim : Stops .trim (.token (.symbol .leftParen)) :=
  fun _ _ _ _ => ⟨_, .look (.step (.look .stop)), within_moved⟩

theorem stops_select : Stops .select (.keyword .SELECT) :=
  fun _ _ _ _ => ⟨[], .look (.look .stop), by simp⟩

theorem stops_statement : Stops .statement (.keyword .SELECT) :=
  stops_select.through (by decide) fun run => .enterFails run

/-- A routine that consumes tokens is run wherever its steps are the parser's, if both stop alike
where no token is left. -/
theorem performs_of_steps {parser : Parser routine.Result} (ends : origin.Ends)
    (stops : Stops routine expected)
    (fails : ∀ cursor, Parse.AtEnd cursor → parser cursor = Parse.fail expected cursor)
    (realises : ∀ below < bound,
      Realises origin ⟨routine, below + 1⟩ (below + 1) below routine.body parser) :
    Performs origin routine bound parser := by
  intro cursor valid few
  rcases left : cursor.position with _ | below
  · obtain ⟨_, reads⟩ := valid.follows
    have atEnd : Parse.AtEnd cursor := ⟨reads.ends ends, List.eq_nil_of_length_eq_zero left⟩
    obtain ⟨text, span, lastStop, rejected, rfl⟩ := atEnd_lastPlace atEnd
    obtain ⟨events, runs, within⟩ := stops text span lastStop rejected
    constructor <;> rw [fails _ atEnd]
    · exact ⟨⟨events, runs, within⟩, valid, Nat.le_refl _, by rintro _ ⟨⟩⟩
    · rintro _ ⟨⟩
  · exact (realises below (by omega)).performsAt valid left

/-- A routine for a part that may be absent leaves things as they are where no token is left. -/
theorem performs_of_optional_steps {parser : Parser routine.Result} (ends : origin.Ends)
    (optional : routine.isOptional = true)
    (absent : ∀ text span lastStop rejected, ∃ value,
      parser (lastPlace text span lastStop rejected) =
        (.ok value, lastPlace text span lastStop rejected) ∧
      Runs ⟨routine, 0⟩ routine.body (lastPlace text span lastStop rejected) [] (.ok value)
        (lastPlace text span lastStop rejected))
    (realises : ∀ below < bound,
      Realises origin ⟨routine, below + 1⟩ (below + 1) (below + 1) routine.body parser) :
    Performs origin routine bound parser := by
  have progresses {cursor later : Cursor} (onward : later.position ≤ cursor.position) :
      Frame.Progresses ⟨routine, cursor.position⟩ later.position :=
    ⟨onward, fun consumes => absurd (optional.symm.trans consumes) (by decide)⟩
  intro cursor valid few
  rcases left : cursor.position with _ | below
  · obtain ⟨_, reads⟩ := valid.follows
    have atEnd : Parse.AtEnd cursor := ⟨reads.ends ends, List.eq_nil_of_length_eq_zero left⟩
    obtain ⟨text, span, lastStop, rejected, rfl⟩ := atEnd_lastPlace atEnd
    obtain ⟨value, run, runs⟩ := absent text span lastStop rejected
    constructor <;> rw [run]
    · exact ⟨⟨[], runs, by simp⟩, valid, Nat.le_refl _, fun _ _ => Nat.le_refl _⟩
    · exact fun _ _ => progresses (Nat.le_refl _)
  · obtain ⟨runs, validLater, onward, _⟩ :=
      realises below (by omega) cursor valid (Nat.le_of_eq left)
    rw [← left] at runs
    exact ⟨⟨runs, validLater, onward, fun _ _ => onward⟩, fun _ _ => progresses onward⟩

/-- A loop is run if each of its rounds is, where at most as many tokens are left as there are
rounds; the rounds that follow are those of the same loop. -/
theorem performs_of_rounds {State : Type} (routine : State → Routine)
    (parser : Nat → (state : State) → Parser (routine state).Result) (ends : origin.Ends)
    (optional : ∀ state, (routine state).isOptional = true)
    (absent : ∀ rounds state text span lastStop rejected, ∃ value,
      parser rounds state (lastPlace text span lastStop rejected) =
        (.ok value, lastPlace text span lastStop rejected) ∧
      Runs ⟨routine state, 0⟩ (routine state).body (lastPlace text span lastStop rejected) []
        (.ok value) (lastPlace text span lastStop rejected))
    (realises : ∀ rounds below, below < bound →
      (∀ state, Performs origin (routine state) below (parser rounds state)) → ∀ state,
        Realises origin ⟨routine state, below + 1⟩ (below + 1) (below + 1) (routine state).body
          (parser (rounds + 1) state))
    (rounds : Nat) :
    ∀ fewer ≤ rounds, fewer ≤ bound → ∀ state,
      Performs origin (routine state) fewer (parser rounds state) := by
  induction rounds with
  | zero =>
      intro fewer few _ state
      exact performs_of_optional_steps ends (optional state) (absent 0 state) fun below less =>
        absurd less (by omega)
  | succ rounds ih =>
      intro fewer few least state
      exact performs_of_optional_steps ends (optional state) (absent (rounds + 1) state)
        fun below less =>
          realises rounds below (by omega) (ih below (by omega) (by omega)) state

end

end Script

end AnnotatedSql.Grammar
