/-
This file shows that two runs take the same steps for as long as neither of them comes near the
place from which on their tokens differ.
-/

import AnnotatedSql.Proofs.Grammar.Script.Reach

namespace AnnotatedSql.Grammar

/-! ### Places of a run -/

/-- After a trial the parser goes on from where it started or from where the trial has ended. -/
theorem Trial.settle_place {trial : Trial} {cursor tried middle : Cursor}
    {result settled : Except SyntaxError (Option trial.Found)}
    (settles : trial.settle cursor (result, tried) = (settled, middle)) :
    middle.position = cursor.position ∨ middle = tried := by
  cases trial <;> rcases result with error | found | found <;> cases settles <;>
    first | exact .inl rfl | exact .inr rfl

namespace Runs

variable {Value : Type} {frame : Frame} {script : Script Value} {cursor later : Cursor}
  {least : Nat} {events : List Event} {outcome : Except SyntaxError Value}

/-- A run ends no further back than it started. -/
theorem onward (run : Runs frame script cursor events outcome later) :
    later.position ≤ cursor.position := by
  induction run with
  | give | stop => exact Nat.le_refl _
  | look _ ih => exact ih
  | @step _ _ _ cursor _ _ _ _ ih =>
      have moved := cursor.advance_position
      omega
  | enter _ _ inner ih => exact Nat.le_trans ih inner
  | enterFails _ inner => exact inner
  | attempt _ settles _ inner ih =>
      rcases Trial.settle_place settles with back | rfl
      · exact Nat.le_trans ih (Nat.le_of_eq back)
      · exact Nat.le_trans ih inner
  | attemptFails _ settles inner =>
      rcases Trial.settle_place settles with back | rfl
      · exact Nat.le_of_eq back
      · exact inner

/-- A run ends where it started or where something has happened. -/
theorem ends_at_event (run : Runs frame script cursor events outcome later) :
    later.position = cursor.position ∨ ∃ event ∈ events, event.position = later.position := by
  induction run with
  | give | stop => exact .inl rfl
  | look _ ih => exact ih
  | step _ ih =>
      rcases ih with here | ⟨event, member, found⟩
      · exact .inr ⟨_, List.mem_cons_self, here.symm⟩
      · exact .inr ⟨event, List.mem_cons_of_mem _ member, found⟩
  | enter _ _ _ ih =>
      right
      rcases ih with here | ⟨event, member, found⟩
      · refine ⟨_, List.mem_cons_of_mem _ (List.mem_append_right _ List.mem_cons_self), here.symm⟩
      · refine ⟨event, List.mem_cons_of_mem _ (List.mem_append_right _ ?_), found⟩
        exact List.mem_cons_of_mem _ member
  | enterFails _ ih =>
      refine ih.imp id ?_
      rintro ⟨event, member, found⟩
      exact ⟨event, List.mem_cons_of_mem _ member, found⟩
  | attempt _ _ _ _ ih =>
      right
      rcases ih with here | ⟨event, member, found⟩
      · exact ⟨_, List.mem_append_right _ List.mem_cons_self, here.symm⟩
      · exact ⟨event, List.mem_append_right _ (List.mem_cons_of_mem _ member), found⟩
  | attemptFails _ settles ih =>
      rcases Trial.settle_place settles with back | rfl
      · exact .inl back
      · exact ih

/-- Whether a run is confined shows in its events, once it starts where it may. -/
theorem confined (run : Runs frame script cursor events outcome later)
    (start : least ≤ cursor.position) (within : ∀ event ∈ events, least ≤ event.position) :
    Confined least events later := by
  refine ⟨within, ?_⟩
  rcases run.ends_at_event with here | ⟨event, member, found⟩
  · exact here ▸ start
  · exact found ▸ within event member

end Runs

/-! ### Tokens that go on in two ways -/

/-- A place in tokens of which some are known, whatever comes behind them. What was given up is told
by the number of known tokens that were left there. -/
def Cursor.knowing (known : List Token) (lastStop : Option Nat) (gaveUp : List Nat)
    (rest : List Token) (ending : Token) : Cursor :=
  ⟨known ++ rest, ending, lastStop, gaveUp.map (· + rest.length)⟩

/-- Two cursors stand at the same place in the same tokens, which go on in two ways. -/
def Cursor.Abreast (rest others : List Token) (ending other : Token) (first second : Cursor) :
    Prop :=
  ∃ known lastStop gaveUp,
    first = .knowing known lastStop gaveUp rest ending ∧
    second = .knowing known lastStop gaveUp others other

namespace Cursor

variable {known rest others : List Token} {ending other : Token} {lastStop : Option Nat}
  {gaveUp : List Nat} {first second tried otherTried middle : Cursor}

theorem knowing_position :
    (knowing known lastStop gaveUp rest ending).position = known.length + rest.length :=
  List.length_append

theorem knowing_ahead {distance : Nat} (near : distance < known.length) :
    (knowing known lastStop gaveUp rest ending).ahead distance = known[distance] := by
  rw [ahead, knowing, List.getD_eq_getElem?_getD, List.getElem?_append_left near,
    List.getElem?_eq_getElem near, Option.getD_some]

theorem knowing_isRejected :
    (knowing known lastStop gaveUp rest ending).isRejected = gaveUp.contains known.length := by
  rw [isRejected, knowing_position, Bool.eq_iff_iff, List.contains_iff_mem, List.contains_iff_mem]
  change known.length + rest.length ∈ gaveUp.map (· + rest.length) ↔ _
  rw [List.mem_map]
  constructor
  · rintro ⟨position, member, same⟩
    exact Nat.add_right_cancel same ▸ member
  · exact fun member => ⟨_, member, rfl⟩

namespace Abreast

theorem position (abreast : Abreast rest others ending other first second) :
    first.position + others.length = second.position + rest.length := by
  obtain ⟨known, lastStop, gaveUp, rfl, rfl⟩ := abreast
  rw [knowing_position, knowing_position]
  omega

/-- As long as three known tokens are left, nothing that a step may depend on is different. -/
theorem view (abreast : Abreast rest others ending other first second)
    (near : rest.length + 3 ≤ first.position) : second.view = first.view := by
  obtain ⟨known, lastStop, gaveUp, rfl, rfl⟩ := abreast
  rw [knowing_position] at near
  have same (distance : Fin 3) : (knowing known lastStop gaveUp others other).ahead distance =
      (knowing known lastStop gaveUp rest ending).ahead distance := by
    have few : (distance : Nat) < known.length := by omega
    rw [knowing_ahead few, knowing_ahead few]
  have current : (knowing known lastStop gaveUp others other).current =
      (knowing known lastStop gaveUp rest ending).current := same 0
  simp only [Cursor.view, current, same, knowing_isRejected]
  rfl

theorem advance (abreast : Abreast rest others ending other first second)
    (near : rest.length + 3 ≤ first.position) :
    Abreast rest others ending other first.advance second.advance := by
  obtain ⟨known, lastStop, gaveUp, rfl, rfl⟩ := abreast
  rw [knowing_position] at near
  cases known with
  | nil => exact absurd near (by simp)
  | cons token known => exact ⟨known, some token.span.stop, gaveUp, rfl, rfl⟩

/-- A trial that comes to the same end leaves the cursors abreast. -/
theorem settle (abreast : Abreast rest others ending other first second)
    (triedAbreast : Abreast rest others ending other tried otherTried) {trial : Trial}
    {result settled : Except SyntaxError (Option trial.Found)}
    (settles : trial.settle first (result, tried) = (settled, middle)) :
    ∃ place, trial.settle second (result, otherTried) = (settled, place) ∧
      Abreast rest others ending other middle place := by
  obtain ⟨known, lastStop, gaveUp, rfl, rfl⟩ := abreast
  have gives (tried : List Token) (stop : Option Nat) (noted : List Nat) :
      Abreast rest others ending other
        ((knowing known lastStop gaveUp rest ending).giveUp (knowing tried stop noted rest ending))
        ((knowing known lastStop gaveUp others other).giveUp
          (knowing tried stop noted others other)) := by
    refine ⟨known, lastStop, known.length :: noted, ?_, ?_⟩ <;>
      simp [giveUp, knowing, Cursor.position]
  obtain ⟨knownTried, stop, noted, rfl, rfl⟩ := triedAbreast
  cases trial with
  | parenthesis =>
      rcases result with error | found | found <;> cases settles
      · exact ⟨_, rfl, gives _ _ _⟩
      · exact ⟨_, rfl, gives _ _ _⟩
      · exact ⟨_, rfl, knownTried, stop, noted, rfl, rfl⟩
  | column =>
      rcases result with error | found | found <;> cases settles
      · exact ⟨_, rfl, knownTried, stop, noted, rfl, rfl⟩
      · exact ⟨_, rfl, known, lastStop, noted, rfl, rfl⟩
      · exact ⟨_, rfl, knownTried, stop, noted, rfl, rfl⟩

end Abreast

end Cursor

/-! ### Runs abreast -/

/-- While at least three known tokens are left, a run depends on nothing behind them. -/
theorem Runs.abreast {Value : Type} {frame : Frame} {script : Script Value} {first later : Cursor}
    {events : List Event} {outcome : Except SyntaxError Value} {rest others : List Token}
    {ending other : Token} (run : Runs frame script first events outcome later) :
    ∀ {second : Cursor} (caller : Frame), first.Abreast rest others ending other second →
      Confined (rest.length + 3) events later →
      ∃ traced place, Runs caller script second traced outcome place ∧
        later.Abreast rest others ending other place := by
  induction run with
  | give =>
      intro second caller abreast _
      exact ⟨[], second, .give, abreast⟩
  | @stop _ _ _ cursor =>
      intro second caller abreast confined
      have view := abreast.view confined.final
      have current : second.current = cursor.current := congrArg View.current view
      exact ⟨[], second, current ▸ .stop, abreast⟩
  | look run ih =>
      intro second caller abreast confined
      obtain ⟨traced, place, other, along⟩ := ih caller abreast confined
      have view := abreast.view (Nat.le_trans confined.final run.onward)
      exact ⟨traced, place, .look (view ▸ other), along⟩
  | @step _ _ _ cursor _ _ _ _ ih =>
      intro second caller abreast confined
      obtain ⟨moved, within⟩ := List.forall_mem_cons.mp confined.events
      have near : rest.length + 3 ≤ cursor.position := by
        have position := cursor.advance_position
        change rest.length + 3 ≤ cursor.advance.position at moved
        omega
      obtain ⟨traced, place, other, along⟩ :=
        ih caller (abreast.advance near) ⟨within, confined.final⟩
      exact ⟨_, place, .step other, along⟩
  | @enter _ _ routine _ _ _ _ _ _ _ _ _ _ ihInner ih =>
      intro second caller abreast confined
      obtain ⟨_, parts⟩ := List.forall_mem_cons.mp confined.events
      obtain ⟨withinInner, parts⟩ := List.forall_mem_append.mp parts
      obtain ⟨returned, within⟩ := List.forall_mem_cons.mp parts
      obtain ⟨_, between, innerRun, innerAlong⟩ :=
        ihInner ⟨routine, second.position⟩ abreast ⟨withinInner, returned⟩
      obtain ⟨_, place, other, along⟩ := ih caller innerAlong ⟨within, confined.final⟩
      exact ⟨_, place, .enter innerRun other, along⟩
  | @enterFails _ _ routine _ _ _ _ _ _ ihInner =>
      intro second caller abreast confined
      obtain ⟨_, within⟩ := List.forall_mem_cons.mp confined.events
      obtain ⟨_, place, innerRun, along⟩ :=
        ihInner ⟨routine, second.position⟩ abreast ⟨within, confined.final⟩
      exact ⟨_, place, .enterFails innerRun, along⟩
  | attempt run settles following ihInner ih =>
      intro second caller abreast confined
      obtain ⟨withinInner, parts⟩ := List.forall_mem_append.mp confined.events
      obtain ⟨_, within⟩ := List.forall_mem_cons.mp parts
      have near := Nat.le_trans confined.final (Runs.attempt run settles following).onward
      obtain ⟨_, between, innerRun, innerAlong⟩ :=
        ihInner caller abreast (run.confined near withinInner)
      obtain ⟨resumed, otherSettles, resumedAlong⟩ := abreast.settle innerAlong settles
      obtain ⟨_, place, other, along⟩ := ih caller resumedAlong ⟨within, confined.final⟩
      exact ⟨_, place, .attempt innerRun otherSettles other, along⟩
  | @attemptFails _ _ _ _ cursor _ _ _ _ _ run settles ihInner =>
      intro second caller abreast confined
      have near : rest.length + 3 ≤ cursor.position := by
        rcases Trial.settle_place settles with back | rfl
        · exact back ▸ confined.final
        · exact Nat.le_trans confined.final run.onward
      obtain ⟨_, between, innerRun, innerAlong⟩ :=
        ihInner caller abreast (run.confined near confined.events)
      obtain ⟨place, otherSettles, along⟩ := abreast.settle innerAlong settles
      exact ⟨_, place, .attemptFails innerRun otherSettles, along⟩

end AnnotatedSql.Grammar
