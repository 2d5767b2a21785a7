/-
This file says which tokens may follow a phrase, so that no parser takes them for a part of it.
-/

import AnnotatedSql.Proofs.Grammar.Completeness.Acceptance
import AnnotatedSql.Proofs.Grammar.Completeness.Corner

namespace AnnotatedSql.Grammar

open Precedence

variable {kind : TokenKind} {follow : TokenKind → Bool} {node : Node} {tokens others : List Token}
  {quantifiable : TokenKind → Bool}

/-! ### Tokens that end a phrase -/

def endsSimple : TokenKind → Bool
  | .symbol .dot | .symbol .leftParen => false
  | _ => true

def endsBits (kind : TokenKind) : Bool := endsSimple kind && (bit? kind).isNone

/-- The words that make a bit expression a predicate, and ESCAPE behind one of them. -/
def isPredicateWord : TokenKind → Bool
  | .keyword .NOT | .keyword .IN | .keyword .BETWEEN | .keyword .LIKE | .keyword .ESCAPE => true
  | _ => false

def endsPredicate (kind : TokenKind) : Bool := endsBits kind && !isPredicateWord kind

def endsPrimary (kind : TokenKind) : Bool :=
  endsPredicate kind && !isComparison kind && kind != .keyword .IS

def endsExpr (kind : TokenKind) : Bool := endsPrimary kind && (logical? kind).isNone

/-- What may follow an item may follow the whole list, but for a comma. -/
def endsList (follow : TokenKind → Bool) (kind : TokenKind) : Bool :=
  follow kind && kind != .symbol .comma

/-- The clauses of a SELECT in their order, and last what may follow the whole. -/
def clauseRank : TokenKind → Nat
  | .keyword .FROM => 1
  | .keyword .WHERE => 2
  | .keyword .GROUP => 3
  | .keyword .HAVING => 4
  | .keyword .ORDER => 5
  | .symbol .rightParen | .symbol .semicolon | .endOfInput => 6
  | _ => 0

/-- The token starts a clause behind the one of the given rank, or ends the SELECT. -/
def endsClause (rank : Nat) (kind : TokenKind) : Bool := rank < clauseRank kind

theorem follow_of_endsList (ends : endsList follow kind) : follow kind :=
  (Bool.and_eq_true_iff.mp ends).1

theorem ne_comma_of_endsList (ends : endsList follow kind) : kind ≠ .symbol .comma :=
  bne_iff_ne.mp (Bool.and_eq_true_iff.mp ends).2

theorem endsExpr.primary (ends : endsExpr kind) : endsPrimary kind := by
  simp_all [endsExpr]

theorem endsPrimary.predicate (ends : endsPrimary kind) : endsPredicate kind := by
  simp_all [endsPrimary]

theorem endsPredicate.bits (ends : endsPredicate kind) : endsBits kind := by
  simp_all [endsPredicate]

theorem endsBits.simple (ends : endsBits kind) : endsSimple kind := by
  simp_all [endsBits]

theorem ne_dot_of_endsSimple (ends : endsSimple kind) : kind != .symbol .dot := by
  rw [bne_iff_ne]
  intro dot
  rw [dot] at ends
  exact Bool.false_ne_true ends

theorem endsPrimary.continuesOperand (ends : endsPrimary kind) :
    continuesOperand kind = false := by
  simp only [endsPrimary, endsPredicate, endsBits, Bool.and_eq_true, Bool.not_eq_true',
    bne_iff_ne] at ends
  obtain ⟨⟨⟨⟨_, bits⟩, words⟩, comparison⟩, is⟩ := ends
  have unlevelled : (bit? kind).isSome = false := by simpa using bits
  simp only [Precedence.continuesOperand, comparison, unlevelled, Bool.false_or]
  split <;> first | rfl | exact absurd rfl is | exact absurd words (by decide)

/-- An operator of a level may follow a simple expression. -/
theorem endsSimple_of_bit (levelled : (bit? kind).isSome) : endsSimple kind := by
  unfold endsSimple
  split <;> first | rfl | exact absurd levelled Bool.false_ne_true

theorem endsPredicate_of_comparison (comparison : isComparison kind) : endsPredicate kind := by
  unfold isComparison at comparison
  split at comparison <;> first | rfl | exact absurd comparison Bool.false_ne_true

/-- A connective may follow a primary. -/
theorem endsPrimary_of_logical (levelled : (logical? kind).isSome) : endsPrimary kind := by
  unfold logical? at levelled
  split at levelled <;> first | rfl | exact absurd levelled Bool.false_ne_true

theorem endsExpr_of_isName (name : kind.isName) : endsExpr kind := by
  rcases kind with _ | _ | _ | _ | _ | _ | word | sign | _ | _ <;> try rfl
  · cases word <;> first | rfl | exact absurd name Bool.false_ne_true
  · exact absurd name Bool.false_ne_true

theorem endsExpr_of_endsClause {rank : Nat} (ends : endsClause rank kind) : endsExpr kind := by
  have positive : 0 < clauseRank kind := by
    have least := of_decide_eq_true ends
    omega
  unfold clauseRank at positive
  split at positive <;> first | rfl | exact absurd positive (Nat.lt_irrefl 0)

theorem endsClause.mono {small large : Nat} (ends : endsClause large kind) (less : small ≤ large) :
    endsClause small kind := by
  have least := of_decide_eq_true ends
  exact decide_eq_true (Nat.lt_of_le_of_lt less least)

theorem endsClause.ne_comma {rank : Nat} (ends : endsClause rank kind) : kind ≠ .symbol .comma := by
  intro same
  rw [same] at ends
  exact absurd (of_decide_eq_true ends) (Nat.not_lt_zero rank)

theorem endsList_of_endsClause {rank : Nat} (ends : endsClause rank kind) (allowed : follow kind) :
    endsList follow kind := by
  rw [endsList, allowed, Bool.true_and, bne_iff_ne]
  exact endsClause.ne_comma ends

theorem isTrimSide_of_startsOperand (starts : startsOperand kind) : isTrimSide kind = false := by
  unfold isTrimSide
  split
  · exact absurd starts Bool.false_ne_true
  · exact absurd starts Bool.false_ne_true
  · exact absurd starts Bool.false_ne_true
  · rfl

/-! ### The first of the tokens ahead -/

/-- Where a phrase that has tokens comes next, one is ahead with which it starts. -/
theorem Derives.ahead (derived : Derives quantifiable node tokens)
    (needed : node.isOptional = false)
    (ahead : Ahead follow 0 (tokens ++ others) kind) : node.starts kind := by
  obtain ⟨first, rest, rfl⟩ := List.exists_cons_of_ne_nil (derived.nonempty needed)
  rw [List.cons_append, Ahead] at ahead
  rw [ahead]
  exact derived.starts first rfl

/-- Where a phrase comes next that may have no tokens, it starts there or what follows it does. -/
theorem Derives.ahead_or (derived : Derives quantifiable node tokens)
    (ahead : Ahead follow 0 (tokens ++ others) kind) :
    node.starts kind ∨ Ahead follow 0 others kind := by
  cases tokens with
  | nil => exact .inr ahead
  | cons first rest =>
      rw [List.cons_append, Ahead] at ahead
      rw [ahead]
      exact .inl (derived.starts first rfl)

end AnnotatedSql.Grammar
