/-
This file shows that tokens that were tried in vain are parsed again, so that the second run comes
at least as far as the trial.
-/

import AnnotatedSql.Proofs.Grammar.Script.Run

namespace AnnotatedSql.Grammar

/-- A run never gets where fewer than so many tokens are left. -/
structure Confined (least : Nat) (events : List Event) (final : Cursor) : Prop where
  events : ∀ event ∈ events, least ≤ event.position
  final : least ≤ final.position

namespace Runs

variable {Value : Type} {frame : Frame} {routine : Routine} {cursor final : Cursor} {least : Nat}
  {events : List Event} {outcome : Except SyntaxError Value}

theorem of_look {next : View → Script Value}
    (run : Runs frame (.look next) cursor events outcome final) :
    Runs frame (next cursor.view) cursor events outcome final := by
  cases run with
  | look run => exact run

/-- A run is confined only as the token it consumes allows. -/
theorem of_step {next : Script Value} (run : Runs frame (.step next) cursor events outcome final)
    (confined : Confined least events final) :
    least ≤ cursor.advance.position ∧
      ∃ others, Runs frame next cursor.advance others outcome final ∧
        Confined least others final := by
  cases run with
  | step run =>
      obtain ⟨moved, rest⟩ := List.forall_mem_cons.mp confined.events
      exact ⟨moved, _, run, rest, confined.final⟩

/-- A run is confined only as the routine it uses is. -/
theorem of_enter {next : routine.Result → Script Value}
    (run : Runs frame (.enter routine next) cursor events outcome final)
    (confined : Confined least events final) :
    ∃ inner result middle, Runs ⟨routine, cursor.position⟩ routine.body cursor inner result middle ∧
      Confined least inner middle ∧
      ∀ value, result = .ok value →
        ∃ others, Runs frame (next value) middle others outcome final ∧
          Confined least others final := by
  cases run with
  | enter inner run =>
      obtain ⟨_, parts⟩ := List.forall_mem_cons.mp confined.events
      obtain ⟨within, parts⟩ := List.forall_mem_append.mp parts
      obtain ⟨returned, rest⟩ := List.forall_mem_cons.mp parts
      refine ⟨_, _, _, inner, ⟨within, returned⟩, ?_⟩
      rintro value ⟨⟩
      exact ⟨_, run, rest, confined.final⟩
  | enterFails inner =>
      obtain ⟨_, within⟩ := List.forall_mem_cons.mp confined.events
      refine ⟨_, _, _, inner, ⟨within, confined.final⟩, ?_⟩
      rintro value ⟨⟩

end Runs

namespace Script

variable {frame : Frame} {cursor final : Cursor} {least : Nat} {events : List Event}

/-- A primary runs the simple expression that it starts with. -/
theorem primaryExpr_reaches {outcome : Except SyntaxError Expr}
    (run : Runs frame primaryExpr cursor events outcome final)
    (confined : Confined least events final) :
    ∃ inner result middle,
      Runs ⟨.simpleExpr, cursor.position⟩ simpleExpr cursor inner result middle ∧
      Confined least inner middle := by
  obtain ⟨_, _, _, primary, within, _⟩ := run.of_enter confined
  obtain ⟨_, _, _, predicate, within, _⟩ := primary.of_look.of_enter within
  obtain ⟨_, _, _, bitExpr, within, _⟩ := predicate.of_look.of_enter within
  obtain ⟨_, _, _, simple, within, _⟩ := bitExpr.of_look.of_enter within
  exact ⟨_, _, _, simple, within⟩

/-- A row runs its first expression and consumes the parenthesis that closes it. -/
theorem row_reaches {outcome : Except SyntaxError SimpleExpr}
    (run : Runs frame row cursor events outcome final) (confined : Confined least events final) :
    ∃ inner result middle,
      Runs ⟨.expr 0, cursor.advance.position⟩ (expr 0) cursor.advance inner result middle ∧
      least ≤ middle.position ∧
      ∀ value, result = .ok value → middle.current.kind = .symbol .rightParen →
        least ≤ middle.advance.position := by
  obtain ⟨_, _, run, confined⟩ := run.of_look.of_step confined
  obtain ⟨_, _, _, list, within, closing⟩ := run.of_enter confined
  obtain ⟨_, _, middle, first, firstWithin, others⟩ := list.of_enter within
  refine ⟨_, _, middle, first, firstWithin.final, ?_⟩
  intro value found closes
  obtain ⟨_, others, _⟩ := others value found
  replace others := others.of_look
  change Runs _ (if (middle.current.kind == .symbol .comma) = true then _ else give [value])
    _ _ _ _ at others
  rw [closes] at others
  cases others with
  | give =>
      obtain ⟨_, closing, confined⟩ := closing _ rfl
      replace closing := closing.of_look
      change Runs _ (Script.bind (if ((Cursor.current _).kind == .symbol .rightParen) = true then
        terminal else fail _) _) _ _ _ _ at closing
      rw [closes] at closing
      exact (closing.of_look.of_step confined).1

/-- Where a parenthesis opens that starts no subquery, a primary runs the expression in it. -/
theorem parenthesis_reaches {outcome : Except SyntaxError Expr}
    (run : Runs frame primaryExpr cursor events outcome final)
    (confined : Confined least events final) (opens : cursor.current.kind = .symbol .leftParen)
    (following : (cursor.ahead 1).kind ≠ .keyword .SELECT) :
    ∃ inner result middle,
      Runs ⟨.expr 0, cursor.advance.position⟩ (expr 0) cursor.advance inner result middle ∧
      least ≤ middle.position ∧
      ∀ value, result = .ok value → middle.current.kind = .symbol .rightParen →
        least ≤ middle.advance.position := by
  obtain ⟨_, _, _, simple, within⟩ := primaryExpr_reaches run confined
  have kind : cursor.view.kinds 0 = .symbol .leftParen := opens
  replace simple := simple.of_look
  simp only [kind] at simple
  replace simple := simple.of_look
  change Runs _ (if (cursor.ahead 1).kind = .keyword .SELECT then bareSubquery else row)
    _ _ _ _ at simple
  rw [if_neg following] at simple
  exact row_reaches simple within

/-- At a name, a simple expression is a column or a call. -/
theorem simpleExpr_of_name {outcome : Except SyntaxError SimpleExpr}
    (run : Runs frame simpleExpr cursor events outcome final)
    (named : cursor.current.kind.isName = true) :
    Runs frame nameOrCall cursor events outcome final := by
  replace run := run.of_look
  change (cursor.view.kinds 0).isName = true at named
  simp only at run
  rcases found : cursor.view.kinds 0 with _ | _ | _ | _ | _ | _ | word | sign | _ | _ <;>
    rw [found] at named run
  case identifier | quotedIdentifier => exact run
  case keyword => cases word <;> first | exact run | exact absurd named (by decide)
  all_goals exact absurd named (by simp [TokenKind.isName])

/-- At a name, an operand is a primary. -/
theorem operand_of_name {outcome : Except SyntaxError Expr}
    (run : Runs frame operand cursor events outcome final)
    (named : cursor.current.kind.isName = true) :
    Runs frame primaryExpr cursor events outcome final := by
  replace run := run.of_look
  change (cursor.view.kinds 0).isName = true at named
  simp only at run
  rcases found : cursor.view.kinds 0 with _ | _ | _ | _ | _ | _ | word | sign | _ | _ <;>
    rw [found] at named run
  case identifier | quotedIdentifier => exact run
  case keyword => cases word <;> first | exact run | exact absurd named (by decide)
  all_goals exact absurd named (by simp [TokenKind.isName])

/-- At a name, an identifier is consumed. -/
theorem identifier_of_name {outcome : Except SyntaxError Identifier}
    (run : Runs frame identifier cursor events outcome final)
    (confined : Confined least events final) (named : cursor.current.kind.isName = true) :
    least ≤ cursor.advance.position := by
  replace run := run.of_look
  change cursor.view.current.kind.isName = true at named
  simp only at run
  generalize cursor.view.current = token at run named
  obtain ⟨kind, text, span⟩ := token
  cases kind with
  | identifier | quotedIdentifier => exact (run.of_step confined).1
  | keyword word =>
      change Runs _ (if word.isUnreserved = true then _ else _) _ _ _ _ at run
      rw [if_pos (show word.isUnreserved = true from named)] at run
      exact (run.of_step confined).1
  | _ => exact absurd named (by simp [TokenKind.isName])

/-- At a name, an expression runs the name or, if a parenthesis follows, consumes it for a call. -/
theorem name_reaches {minimum : Nat} {outcome : Except SyntaxError Expr}
    (run : Runs frame (expr minimum) cursor events outcome final)
    (confined : Confined least events final) (named : cursor.current.kind.isName = true) :
    (cursor.ahead 1).kind = .symbol .leftParen ∧ least ≤ cursor.advance.position ∨
      ∃ inner result middle,
        Runs ⟨.qualifiedName, cursor.position⟩ qualifiedName cursor inner result middle ∧
        least ≤ middle.position := by
  obtain ⟨_, _, _, operand, within, _⟩ := run.of_look.of_enter confined
  obtain ⟨_, _, _, simple, within⟩ :=
    primaryExpr_reaches (operand_of_name operand named) within
  replace simple := (simpleExpr_of_name simple named).of_look.of_look
  change Runs _ (if (cursor.ahead 1).kind = .symbol .leftParen then
    if Parse.namesAggregate cursor.current then aggregation else regular
    else (call .qualifiedName).bind _) _ _ _ _ at simple
  split at simple
  case isTrue opens =>
    refine .inl ⟨opens, ?_⟩
    split at simple
    · obtain ⟨_, _, _, call, within, _⟩ := simple.of_enter within
      exact (call.of_look.of_look.of_step within).1
    · obtain ⟨_, _, _, call, within, _⟩ := simple.of_enter within
      obtain ⟨_, _, _, name, within, _⟩ := call.of_look.of_enter within
      exact identifier_of_name name within named
  case isFalse =>
    obtain ⟨_, _, _, name, within, _⟩ := simple.of_enter within
    exact .inr ⟨_, _, _, name, within.final⟩

end Script

end AnnotatedSql.Grammar
