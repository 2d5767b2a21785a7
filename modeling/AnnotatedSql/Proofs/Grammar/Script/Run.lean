/-
This file says how the steps of a routine are run, and which places, uses of routines and rounds of
loops make up a run.
-/

import AnnotatedSql.Proofs.Grammar.Backtracking.Statement
import AnnotatedSql.Proofs.Grammar.Script.Routines

namespace AnnotatedSql.Grammar

/-! ### Runs -/

/-- A routine in use, and the number of tokens that were left where it started. -/
structure Frame where
  routine : Routine
  position : Nat

/-- What happens in a run: a token is consumed, a routine is used or has succeeded, or the parser
goes on after it tried something, which was found or not. Places are known by the number of tokens
that are left; after the first one, the parser comes to no place without an event. -/
inductive Event
  | moved (position : Nat)
  | entered (caller callee : Frame)
  | returned (frame : Frame) (position : Nat)
  | resumed (start : Nat) (found : Bool) (position : Nat)

/-- The number of tokens that are left where an event happens. -/
def Event.position : Event → Nat
  | moved position => position
  | entered _ callee => callee.position
  | returned _ position => position
  | resumed _ _ position => position

/-- What a trial comes to: without what it looked for, the parser is back where it was. A name that
is missing is an error, but what is missing in a parenthesis is not. -/
def Trial.settle : (trial : Trial) → Cursor →
    Except SyntaxError (Option trial.Found) × Cursor →
      Except SyntaxError (Option trial.Found) × Cursor
  | .parenthesis, before, run => Parse.afterTrial before run
  | .column, before, (.ok none, later) => (.ok none, { before with rejected := later.rejected })
  | .column, _, run => run

/-- From a cursor, the steps of a script come to an end in the given way, at a later cursor.
There is one such relation for each routine whose script is run, known by its frame; a derivation is
a run that ends. -/
inductive Runs : {Value : Type} → Frame → Script Value → Cursor → List Event →
    Except SyntaxError Value → Cursor → Prop
  | give {Value : Type} {frame : Frame} {value : Value} {cursor : Cursor} :
      Runs frame (.give value) cursor [] (.ok value) cursor
  | stop {Value : Type} {frame : Frame} {expected : Expected} {cursor : Cursor} :
      Runs frame (.stop expected : Script Value) cursor []
        (.error (.atToken expected cursor.current)) cursor
  | look {Value : Type} {frame : Frame} {next : View → Script Value} {cursor later : Cursor}
      {events : List Event} {outcome : Except SyntaxError Value} :
      Runs frame (next cursor.view) cursor events outcome later →
      Runs frame (.look next) cursor events outcome later
  | step {Value : Type} {frame : Frame} {next : Script Value} {cursor later : Cursor}
      {events : List Event} {outcome : Except SyntaxError Value} :
      Runs frame next cursor.advance events outcome later →
      Runs frame (.step next) cursor (.moved cursor.advance.position :: events) outcome later
  | enter {Value : Type} {frame : Frame} {routine : Routine}
      {next : routine.Result → Script Value} {cursor middle later : Cursor}
      {inner events : List Event} {result : routine.Result} {outcome : Except SyntaxError Value} :
      Runs ⟨routine, cursor.position⟩ routine.body cursor inner (.ok result) middle →
      Runs frame (next result) middle events outcome later →
      Runs frame (.enter routine next) cursor
        (.entered frame ⟨routine, cursor.position⟩ ::
          (inner ++ .returned ⟨routine, cursor.position⟩ middle.position :: events)) outcome later
  | enterFails {Value : Type} {frame : Frame} {routine : Routine}
      {next : routine.Result → Script Value} {cursor later : Cursor} {inner : List Event}
      {error : SyntaxError} :
      Runs ⟨routine, cursor.position⟩ routine.body cursor inner (.error error) later →
      Runs frame (.enter routine next) cursor
        (.entered frame ⟨routine, cursor.position⟩ :: inner) (.error error) later
  | attempt {Value : Type} {frame : Frame} {trial : Trial}
      {next : Option trial.Found → Script Value} {cursor tried middle later : Cursor}
      {inner events : List Event} {result : Except SyntaxError (Option trial.Found)}
      {found : Option trial.Found} {outcome : Except SyntaxError Value} :
      Runs frame trial.body cursor inner result tried →
      trial.settle cursor (result, tried) = (.ok found, middle) →
      Runs frame (next found) middle events outcome later →
      Runs frame (.attempt trial next) cursor
        (inner ++ .resumed cursor.position found.isSome middle.position :: events) outcome later
  | attemptFails {Value : Type} {frame : Frame} {trial : Trial}
      {next : Option trial.Found → Script Value} {cursor tried later : Cursor}
      {inner : List Event} {result : Except SyntaxError (Option trial.Found)}
      {error : SyntaxError} :
      Runs frame trial.body cursor inner result tried →
      trial.settle cursor (result, tried) = (.error error, later) →
      Runs frame (.attempt trial next) cursor inner (.error error) later

namespace Runs

variable {Value Result : Type} {frame : Frame} {script : Script Value}
  {cursor middle later : Cursor} {events others : List Event} {outcome : Except SyntaxError Value}

/-- A script may be run in two parts. -/
theorem bind {result : Except SyntaxError Result} {rest : Value → Script Result}
    (start : Runs frame script cursor events outcome middle) :
    ∀ {value}, outcome = .ok value → Runs frame (rest value) middle others result later →
      Runs frame (script >>= rest) cursor (events ++ others) result later := by
  induction start with
  | give =>
      rintro _ ⟨⟩ run
      exact run
  | stop => rintro _ ⟨⟩
  | look _ ih => exact fun found run => .look (ih found run)
  | step _ ih => exact fun found run => .step (ih found run)
  | enter inner _ _ ih =>
      intro _ found run
      rw [List.cons_append, List.append_assoc, List.cons_append]
      exact .enter inner (ih found run)
  | enterFails => rintro _ ⟨⟩
  | attempt inner settled _ _ ih =>
      intro _ found run
      rw [List.append_assoc, List.cons_append]
      exact .attempt inner settled (ih found run)
  | attemptFails => rintro _ ⟨⟩

/-- Where the first part fails, the second one is not run. -/
theorem bind_error {error : SyntaxError} {rest : Value → Script Result}
    (start : Runs frame script cursor events outcome later) :
    outcome = .error error → Runs frame (script >>= rest) cursor events (.error error) later := by
  induction start with
  | give => rintro ⟨⟩
  | stop =>
      rintro ⟨⟩
      exact .stop
  | look _ ih => exact fun failed => .look (ih failed)
  | step _ ih => exact fun failed => .step (ih failed)
  | enter inner _ _ ih => exact fun failed => .enter inner (ih failed)
  | enterFails inner _ =>
      rintro ⟨⟩
      exact .enterFails inner
  | attempt inner settled _ _ ih => exact fun failed => .attempt inner settled (ih failed)
  | attemptFails inner settled _ =>
      rintro ⟨⟩
      exact .attemptFails inner settled

/-- There is only one run. -/
theorem unique (run : Runs frame script cursor events outcome later) :
    ∀ {others result place}, Runs frame script cursor others result place →
      others = events ∧ result = outcome ∧ place = later := by
  induction run with
  | give =>
      rintro _ _ _ ⟨⟩
      exact ⟨rfl, rfl, rfl⟩
  | stop =>
      rintro _ _ _ ⟨⟩
      exact ⟨rfl, rfl, rfl⟩
  | look _ ih =>
      intro _ _ _ other
      cases other with
      | look run => exact ih run
  | step _ ih =>
      intro _ _ _ other
      cases other with
      | step run =>
          obtain ⟨rfl, rfl, rfl⟩ := ih run
          exact ⟨rfl, rfl, rfl⟩
  | enter _ _ ihInner ih =>
      intro _ _ _ other
      cases other with
      | enter inner run =>
          obtain ⟨rfl, same, rfl⟩ := ihInner inner
          obtain rfl := Except.ok.inj same
          obtain ⟨rfl, rfl, rfl⟩ := ih run
          exact ⟨rfl, rfl, rfl⟩
      | enterFails inner => cases (ihInner inner).2.1
  | enterFails _ ihInner =>
      intro _ _ _ other
      cases other with
      | enter inner run => cases (ihInner inner).2.1
      | enterFails inner =>
          obtain ⟨rfl, same, rfl⟩ := ihInner inner
          exact ⟨rfl, congrArg _ (Except.error.inj same), rfl⟩
  | attempt _ settled _ ihInner ih =>
      intro _ _ _ other
      cases other with
      | attempt inner otherSettled run =>
          obtain ⟨rfl, rfl, rfl⟩ := ihInner inner
          cases settled.symm.trans otherSettled
          obtain ⟨rfl, rfl, rfl⟩ := ih run
          exact ⟨rfl, rfl, rfl⟩
      | attemptFails inner otherSettled =>
          obtain ⟨rfl, rfl, rfl⟩ := ihInner inner
          cases settled.symm.trans otherSettled
  | attemptFails _ settled ihInner =>
      intro _ _ _ other
      cases other with
      | attempt inner otherSettled run =>
          obtain ⟨rfl, rfl, rfl⟩ := ihInner inner
          cases settled.symm.trans otherSettled
      | attemptFails inner otherSettled =>
          obtain ⟨rfl, rfl, rfl⟩ := ihInner inner
          cases settled.symm.trans otherSettled
          exact ⟨rfl, rfl, rfl⟩

end Runs

end AnnotatedSql.Grammar
