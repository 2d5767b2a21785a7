/-
This file groups a chain of operands and operators as a grammar with one layer for each rank of
operators prescribes: the operators of a layer join to the left, and those of the layers above it
bind tighter. A chain has one such grouping at most.
-/

import AnnotatedSql.Token

namespace AnnotatedSql.Grammar

/-- Operands that operators join in pairs. -/
inductive Grouping (Operand : Type)
  | operand (value : Operand)
  | joined (left : Grouping Operand) (operator : TokenKind) (right : Grouping Operand)

namespace Grouping

variable {Operand : Type} {rank? : TokenKind → Option Nat} {level own : Nat}
  {operator : TokenKind} {left right grouping : Grouping Operand}

/-- The operands and the operators between them, in order. -/
def chain : Grouping Operand → List (Operand ⊕ TokenKind)
  | .operand value => [.inl value]
  | .joined left operator right => left.chain ++ .inr operator :: right.chain

theorem chain_nonempty : grouping.chain ≠ [] := by cases grouping <;> simp [chain]

/-- A layer of the grammar `layer = layer operator next | next`, where the operators are those of
the rank of the layer. -/
inductive Layered (rank? : TokenKind → Option Nat) : Nat → Grouping Operand → Prop
  | operand (level : Nat) (value : Operand) : Layered rank? level (.operand value)
  | next {level : Nat} {grouping : Grouping Operand} :
      Layered rank? (level + 1) grouping → Layered rank? level grouping
  | joined {level : Nat} {left : Grouping Operand} {operator : TokenKind}
      {right : Grouping Operand} :
      rank? operator = some level → Layered rank? level left → Layered rank? (level + 1) right →
      Layered rank? level (.joined left operator right)

/-- The grouping is one of the grammar, and the chain has no other one. -/
structure Prescribed (rank? : TokenKind → Option Nat) (grouping : Grouping Operand) : Prop where
  layered : grouping.Layered rank? 0
  only (other : Grouping Operand) :
    other.Layered rank? 0 → other.chain = grouping.chain → other = grouping

theorem Layered.lower (layered : grouping.Layered rank? own) (below : level ≤ own) :
    grouping.Layered rank? level := by
  induction below with
  | refl => exact layered
  | step _ ih => exact ih layered.next

/-- What joins the parts of a grouping is of its layer or of one above. -/
theorem Layered.parts (layered : Layered rank? level (.joined left operator right)) :
    ∃ own, rank? operator = some own ∧ level ≤ own ∧ left.Layered rank? own ∧
      right.Layered rank? (own + 1) := by
  generalize whole : Grouping.joined left operator right = grouping at layered
  induction layered with
  | operand => cases whole
  | next _ ih =>
      obtain ⟨own, found, below, layers⟩ := ih whole
      exact ⟨own, found, by omega, layers⟩
  | joined found first second =>
      cases whole
      exact ⟨_, found, Nat.le_refl _, first, second⟩

/-- No operator of a layer has a lower rank. -/
theorem Layered.rank_le (layered : grouping.Layered rank? level)
    (member : .inr operator ∈ grouping.chain) : ∃ own, rank? operator = some own ∧ level ≤ own := by
  induction layered with
  | operand => simp [chain] at member
  | next _ ih =>
      obtain ⟨own, found, below⟩ := ih member
      exact ⟨own, found, by omega⟩
  | joined found _ _ ihLeft ihRight =>
      rw [chain, List.mem_append, List.mem_cons] at member
      rcases member with before | same | after
      · exact ihLeft before
      · cases same
        exact ⟨_, found, Nat.le_refl _⟩
      · obtain ⟨own, found, below⟩ := ihRight after
        exact ⟨own, found, by omega⟩

/-- Of two operators, not each can be on the left of the other one: the one that joins to the left
would have to bind as tight as the other one at most, and that behind it tighter. -/
theorem Layered.apart {other : TokenKind} {otherOwn : Nat} {first second : Grouping Operand}
    (found : rank? operator = some own) (otherFound : rank? other = some otherOwn)
    (first_layered : first.Layered rank? otherOwn) (second_layered : second.Layered rank? (own + 1))
    (isLeft : .inr operator ∈ first.chain) (isRight : .inr other ∈ second.chain) : False := by
  obtain ⟨_, same, below⟩ := first_layered.rank_le isLeft
  obtain ⟨_, otherSame, above⟩ := second_layered.rank_le isRight
  rw [found, Option.some.injEq] at same
  rw [otherFound, Option.some.injEq] at otherSame
  omega

/-- A chain is grouped in one way only. -/
theorem Layered.unique {other : Grouping Operand} {otherLevel : Nat}
    (layered : grouping.Layered rank? level) (otherLayered : other.Layered rank? otherLevel)
    (same : other.chain = grouping.chain) : other = grouping := by
  induction grouping generalizing other level otherLevel with
  | operand value =>
      cases other with
      | operand => simpa [chain] using same
      | joined => simp [chain, chain_nonempty, List.append_eq_singleton_iff] at same
  | joined left operator right ihLeft ihRight =>
      cases other with
      | operand => simp [chain, chain_nonempty, List.singleton_eq_append_iff] at same
      | joined otherLeft otherOperator otherRight =>
          obtain ⟨own, found, _, first, second⟩ := layered.parts
          obtain ⟨otherOwn, otherFound, _, otherFirst, otherSecond⟩ := otherLayered.parts
          rw [chain, chain] at same
          rcases List.append_eq_append_iff.mp same with ⟨gap, longer, rest⟩ | ⟨gap, longer, rest⟩
          · cases gap with
            | nil =>
                rw [List.append_nil] at longer
                obtain ⟨sameOperator, sameRight⟩ := List.cons.inj rest
                rw [ihLeft first otherFirst longer.symm, ihRight second otherSecond sameRight,
                  Sum.inr.inj sameOperator]
            | cons between others =>
                obtain ⟨rfl, behind⟩ := List.cons.inj rest
                have isLeft : .inr otherOperator ∈ left.chain := by simp [longer]
                have isRight : .inr operator ∈ otherRight.chain := by simp [behind]
                exact (apart otherFound found first otherSecond isLeft isRight).elim
          · cases gap with
            | nil =>
                rw [List.append_nil] at longer
                obtain ⟨sameOperator, sameRight⟩ := List.cons.inj rest
                rw [ihLeft first otherFirst longer, ihRight second otherSecond sameRight.symm,
                  Sum.inr.inj sameOperator]
            | cons between others =>
                obtain ⟨rfl, behind⟩ := List.cons.inj rest
                have isLeft : .inr operator ∈ otherLeft.chain := by simp [longer]
                have isRight : .inr otherOperator ∈ right.chain := by simp [behind]
                exact (apart found otherFound otherFirst second isLeft isRight).elim

theorem Layered.prescribed (layered : grouping.Layered rank? 0) : grouping.Prescribed rank? :=
  ⟨layered, fun _ otherLayered => layered.unique otherLayered⟩

end Grouping

end AnnotatedSql.Grammar
