/-
This file says when two parsers do the same, if one of them may skip what it gave up before.
-/

import AnnotatedSql.Grammar.Parse
import AnnotatedSql.Proofs.Grammar.Consumption

namespace AnnotatedSql.Grammar

namespace Cursor

/-- The place of a cursor, without what was given up. -/
def place (cursor : Cursor) : Cursor := { cursor with rejected := [] }

theorem eq_of_place {cursor other : Cursor} (same : cursor.place = other.place) :
    other = { cursor with rejected := other.rejected } := by
  obtain ⟨_, _, _, _⟩ := cursor
  obtain ⟨_, _, _, _⟩ := other
  simp_all [place]

/-- The cursor is one that lies in the tokens of the first one. -/
def Follows (cursor origin : Cursor) : Prop := ∃ tokens, origin.Reads tokens cursor

variable {origin cursor : Cursor}

theorem Follows.ends (follows : cursor.Follows origin) (ends : origin.Ends) : cursor.Ends := by
  obtain ⟨_, reads⟩ := follows
  exact reads.ends ends

theorem Follows.reads {later : Cursor} {tokens : List Token} (follows : cursor.Follows origin)
    (reads : cursor.Reads tokens later) : later.Follows origin := by
  obtain ⟨earlier, before⟩ := follows
  exact ⟨earlier ++ tokens, before.trans reads⟩

theorem Follows.advance (follows : cursor.Follows origin) : cursor.advance.Follows origin := by
  obtain ⟨tokens, reads⟩ := follows
  obtain ⟨unread, ending, lastStop, rejected⟩ := cursor
  cases unread with
  | nil => exact ⟨tokens, reads⟩
  | cons token rest => exact ⟨tokens ++ [token], reads.trans ⟨rfl, rfl, rfl⟩⟩

theorem Follows.giving (follows : cursor.Follows origin) (others : List Nat) :
    Follows { cursor with rejected := others } origin := by
  obtain ⟨tokens, reads⟩ := follows
  exact ⟨tokens, reads.unread, reads.ending, reads.lastStop⟩

/-- Cursors in the same tokens that have the same number of them left differ only in what they
gave up. -/
theorem Follows.same_place {other : Cursor} (follows : cursor.Follows origin)
    (otherFollows : other.Follows origin) (position : cursor.position = other.position) :
    other = { cursor with rejected := other.rejected } := by
  obtain ⟨tokens, reads⟩ := follows
  obtain ⟨others, otherReads⟩ := otherFollows
  have whole := reads.unread.symm.trans otherReads.unread
  obtain ⟨same, unread⟩ := List.append_inj' whole position
  have ending := reads.ending.trans otherReads.ending.symm
  have lastStop := reads.lastStop
  rw [same, ← otherReads.lastStop] at lastStop
  obtain ⟨_, _, _, _⟩ := cursor
  obtain ⟨_, _, _, _⟩ := other
  simp_all

/-- What was given up does not enclose a whole operand, however deep one may look into it. -/
def Remembers (origin cursor : Cursor) : Prop :=
  ∀ position ∈ cursor.rejected, ∀ place : Cursor, place.Follows origin →
    place.position = position → ∀ depth, position ≤ depth + 1 → ∀ found,
      (Parse.enclosed? (Parse.nested .always depth) place).1 ≠ .ok (some found)

/-- The cursor lies in the given tokens; if it is to skip what it gave up, this is for good. -/
structure Valid (origin : Cursor) (retry : Parse.Retry) (cursor : Cursor) : Prop where
  follows : cursor.Follows origin
  remembers : retry = .never → Remembers origin cursor

theorem Valid.advance {retry : Parse.Retry} (valid : Valid origin retry cursor) :
    Valid origin retry cursor.advance := by
  refine ⟨valid.follows.advance, ?_⟩
  intro never
  have remembers := valid.remembers never
  obtain ⟨unread, ending, lastStop, rejected⟩ := cursor
  cases unread <;> exact remembers

end Cursor

namespace Parse

variable {Value Result : Type} {origin : Cursor} {retry : Retry} {before middle after bound : Nat}

/-- With at most `before` tokens left, both parsers give the same value or the same error and come
to the same place; after a value at most `after` tokens are left. -/
def Agree (origin : Cursor) (retry : Retry) (before after : Nat) (first second : Parser Value) :
    Prop :=
  ∀ cursor others, Cursor.Valid origin retry cursor → cursor.position ≤ before →
    ∃ outcome later left, first cursor = (outcome, later) ∧
      second { cursor with rejected := others } = (outcome, { later with rejected := left }) ∧
      Cursor.Valid origin retry later ∧ ∀ value, outcome = .ok value → later.position ≤ after

theorem Agree.mono {fewer more : Nat} {first second : Parser Value}
    (agree : Agree origin retry before after first second) (fewerBefore : fewer ≤ before)
    (moreAfter : after ≤ more) : Agree origin retry fewer more first second := by
  intro cursor others valid bound
  obtain ⟨outcome, later, left, run, otherRun, validLater, boundLater⟩ :=
    agree cursor others valid (by omega)
  refine ⟨outcome, later, left, run, otherRun, validLater, ?_⟩
  intro value found
  have least := boundLater value found
  omega

/-- What agrees while it consumes a token agrees where fewer are left. -/
theorem Agree.here {first second : Parser Value}
    (agree : Agree origin retry (bound + 1) bound first second) :
    Agree origin retry bound bound first second :=
  agree.mono (Nat.le_succ bound) (Nat.le_refl bound)

/-- What agrees with fewer tokens left may be followed by anything that agrees with one more. -/
theorem Agree.wide {first second : Parser Value}
    (agree : Agree origin retry before bound first second) :
    Agree origin retry before (bound + 1) first second :=
  agree.mono (Nat.le_refl before) (Nat.le_succ bound)

theorem Agree.bind {first second : Parser Value} {firstNext secondNext : Value → Parser Result}
    (start : Agree origin retry before middle first second)
    (next : ∀ value, Agree origin retry middle after (firstNext value) (secondNext value)) :
    Agree origin retry before after (first >>= firstNext) (second >>= secondNext) := by
  intro cursor others valid bound
  obtain ⟨outcome, later, left, run, otherRun, validLater, boundLater⟩ :=
    start cursor others valid bound
  rw [bind_run, bind_run, run, otherRun]
  cases outcome with
  | error error => exact ⟨_, later, left, rfl, rfl, validLater, by simp⟩
  | ok value => exact next value later left validLater (boundLater value rfl)

/-! ### Steps -/

theorem agree_pure (value : Value) : Agree origin retry bound bound (pure value) (pure value) :=
  fun cursor others valid bounded =>
    ⟨.ok value, cursor, others, rfl, rfl, valid, fun _ _ => bounded⟩

theorem agree_fail (expected : Expected) :
    Agree origin retry before after (fail expected : Parser Value) (fail expected) :=
  fun cursor others valid _ => ⟨_, cursor, others, rfl, rfl, valid, by simp⟩

/-- A parser that only looks at its place agrees with itself. -/
theorem agree_of_look {parser : Parser Value} {look : Cursor → Value}
    (run : ∀ cursor, parser cursor = (.ok (look cursor), cursor))
    (blind : ∀ cursor others, look { cursor with rejected := others } = look cursor) :
    Agree origin retry bound bound parser parser := by
  intro cursor others valid bounded
  refine ⟨.ok (look cursor), cursor, others, run cursor, ?_, valid, fun _ _ => bounded⟩
  rw [run, blind]

theorem agree_current : Agree origin retry bound bound Parse.current Parse.current :=
  agree_of_look (fun _ => rfl) fun _ _ => rfl

theorem agree_kindAhead (distance : Nat) :
    Agree origin retry bound bound (kindAhead distance) (kindAhead distance) :=
  agree_of_look (fun _ => rfl) fun _ _ => rfl

theorem agree_offset : Agree origin retry bound bound offset offset :=
  agree_of_look (fun _ => rfl) fun _ _ => rfl

theorem agree_spanFrom (start : Nat) :
    Agree origin retry bound bound (spanFrom start) (spanFrom start) :=
  agree_of_look (fun _ => rfl) fun _ _ => rfl

theorem agree_remaining : Agree origin retry bound bound remaining remaining :=
  agree_of_look (fun _ => rfl) fun _ _ => rfl

/-- What follows may use that it starts with just as many tokens left. -/
theorem agree_remaining_bind {first second : Nat → Parser Result}
    (next : ∀ depth ≤ before, Agree origin retry depth after (first depth) (second depth)) :
    Agree origin retry before after (remaining >>= first) (remaining >>= second) := by
  intro cursor others valid least
  rw [bind_look remaining_run, bind_look remaining_run]
  exact next cursor.position least cursor others valid (Nat.le_refl cursor.position)

theorem agree_atKind (kind : TokenKind) :
    Agree origin retry bound bound (atKind kind) (atKind kind) :=
  agree_of_look (fun _ => rfl) fun _ _ => rfl

theorem advance_rejected (cursor : Cursor) (others : List Nat) :
    Cursor.advance { cursor with rejected := others } =
      { cursor.advance with rejected := others } := by
  obtain ⟨unread, ending, lastStop, rejected⟩ := cursor
  cases unread <;> rfl

theorem agree_advance : Agree origin retry (bound + 1) bound advance advance := by
  intro cursor others valid bounded
  refine ⟨.ok (), cursor.advance, others, rfl, ?_, valid.advance, ?_⟩
  · rw [← advance_rejected]
    rfl
  · intro _ _
    rw [Cursor.advance_position]
    omega

theorem agree_terminal : Agree origin retry (bound + 1) bound terminal terminal :=
  agree_current.bind fun token => agree_advance.bind fun _ => agree_pure token.span

theorem agree_ite {condition : Prop} [Decidable condition]
    {first second third fourth : Parser Value}
    (holds : condition → Agree origin retry before after first second)
    (fails : ¬ condition → Agree origin retry before after third fourth) :
    Agree origin retry before after (if condition then first else third)
      (if condition then second else fourth) := by
  split
  case isTrue found => exact holds found
  case isFalse missing => exact fails missing

theorem agree_expectKind (kind : TokenKind) :
    Agree origin retry (bound + 1) bound (expectKind kind) (expectKind kind) :=
  (agree_atKind kind).bind fun _ => agree_ite (fun _ => agree_terminal) fun _ => agree_fail _

theorem agree_expectKeyword (word : Keyword) :
    Agree origin retry (bound + 1) bound (expectKeyword word) (expectKeyword word) :=
  (agree_atKind _).bind fun _ => agree_ite (fun _ => agree_terminal) fun _ => agree_fail _

/-! ### Nested parsers -/

/-- The nested parsers of both sides agree with at most so many tokens left. -/
structure Nested.Agree (origin : Cursor) (retry : Retry) (bound : Nat) (first second : Nested) :
    Prop where
  expr (minimum : Nat) :
    Parse.Agree origin retry bound bound (first.expr minimum) (second.expr minimum)
  predicate : Parse.Agree origin retry bound bound first.predicate second.predicate
  bitExpr (minimum : Nat) :
    Parse.Agree origin retry bound bound (first.bitExpr minimum) (second.bitExpr minimum)
  simpleExpr : Parse.Agree origin retry bound bound first.simpleExpr second.simpleExpr
  select : Parse.Agree origin retry bound bound first.select second.select

end Parse

end AnnotatedSql.Grammar
