/-
This file lays phrases out flat, as operands with operators between them, and looks at what stands
at the left end of a phrase.
-/

import AnnotatedSql.Proofs.Grammar.Terminal

namespace AnnotatedSql.Grammar

def IsSimple (tokens : List Token) : Prop := ∃ node, DerivesWidely (.simpleExpr node) tokens

def IsPredicate (tokens : List Token) : Prop := ∃ node, DerivesWidely (.predicate node) tokens

def IsPrimary (tokens : List Token) : Prop := ∃ node, DerivesWidely (.primary node) tokens

def IsExpr (tokens : List Token) : Prop := ∃ node, DerivesWidely (.expr node) tokens

/-! ### Operands with operators between them -/

/-- Items with operators that have a level between them. -/
inductive Joined (item : List Token → Prop) (level? : TokenKind → Option Nat) : List Token → Prop
  | single {tokens} : item tokens → Joined item level? tokens
  | cons {first operator others} :
      item first → (level? operator.kind).isSome → Joined item level? others →
      Joined item level? (first ++ operator :: others)

/-- What is left of joined items behind one of them: nothing, or an operator of a level below the
given one and further items. -/
inductive Rest (item : List Token → Prop) (level? : TokenKind → Option Nat) (minimum : Nat) :
    List Token → Prop
  | nothing : Rest item level? minimum []
  | further {operator level others} :
      level? operator.kind = some level → level < minimum → Joined item level? others →
      Rest item level? minimum (operator :: others)

section
variable {item : List Token → Prop} {level? : TokenKind → Option Nat} {tokens others : List Token}

theorem Joined.append {operator : Token} (first : Joined item level? tokens)
    (levelled : (level? operator.kind).isSome) (second : Joined item level? others) :
    Joined item level? (tokens ++ operator :: others) := by
  induction first with
  | single found => exact .cons found levelled second
  | cons found further _ ih =>
      rw [List.append_assoc]
      exact .cons found further ih

theorem Joined.split (joined : Joined item level? tokens) :
    ∃ first minimum left, item first ∧ Rest item level? minimum left ∧ tokens = first ++ left := by
  cases joined with
  | single found => exact ⟨tokens, 0, [], found, .nothing, (List.append_nil tokens).symm⟩
  | cons found levelled others =>
      obtain ⟨level, same⟩ := Option.isSome_iff_exists.mp levelled
      exact ⟨_, level + 1, _, found, .further same (Nat.lt_succ_self level) others, rfl⟩

/-- The first item may be replaced by another one. -/
theorem Rest.joined {minimum : Nat} {first : List Token} (rest : Rest item level? minimum tokens)
    (found : item first) : Joined item level? (first ++ tokens) := by
  cases rest with
  | nothing =>
      rw [List.append_nil]
      exact .single found
  | further level _ others => exact .cons found (Option.isSome_of_eq_some level) others

theorem Rest.eq_nil (rest : Rest item level? 0 tokens) : tokens = [] := by
  cases rest with
  | nothing => rfl
  | further _ least _ => exact absurd least (Nat.not_lt_zero _)

end

/-! ### Bit expressions -/

theorem bitExpr_joined {node : BitExpr} {tokens : List Token} :
    DerivesWidely (.bitExpr node) tokens → Joined IsSimple Precedence.bit? tokens
  | .binary left operator right =>
      (bitExpr_joined left).append (isBitOperator_eq _ ▸ operator) (bitExpr_joined right)
  | .simple operand => .single ⟨_, operand⟩

theorem bitExpr_of_joined {tokens : List Token} (joined : Joined IsSimple Precedence.bit? tokens) :
    ∃ node, DerivesWidely (.bitExpr node) tokens := by
  induction joined with
  | single found =>
      obtain ⟨node, derived⟩ := found
      exact ⟨_, .simple derived⟩
  | cons found levelled _ ih =>
      obtain ⟨node, derived⟩ := found
      obtain ⟨right, others⟩ := ih
      exact ⟨_, .binary (.simple derived) (isBitOperator_eq _ ▸ levelled) others⟩

/-! ### Predicates -/

/-- What makes a bit expression a predicate, without NOT. -/
inductive Test : List Token → Prop
  | inSubquery {word query tokens} :
      word.kind = .keyword .IN → DerivesWidely (.subquery query) tokens → Test (word :: tokens)
  | inList {word opening closing items tokens} :
      word.kind = .keyword .IN → opening.kind = .symbol .leftParen →
      DerivesWidely (.exprs items) tokens → closing.kind = .symbol .rightParen →
      Test (word :: opening :: (tokens ++ [closing]))
  | between {word operator lower upper middle after} :
      word.kind = .keyword .BETWEEN → DerivesWidely (.bitExpr lower) middle →
      operator.kind = .keyword .AND → DerivesWidely (.predicate upper) after →
      Test (word :: (middle ++ operator :: after))
  | like {word pattern escape middle after} :
      word.kind = .keyword .LIKE → DerivesWidely (.simpleExpr pattern) middle →
      DerivesWidely (.escape escape) after → Test (word :: (middle ++ after))

/-- The words behind which a predicate goes on. -/
theorem Test.word {tokens : List Token} (test : Test tokens) :
    ∃ word rest, tokens = word :: rest ∧ (word.kind = .keyword .IN ∨ word.kind = .keyword .BETWEEN ∨
      word.kind = .keyword .LIKE) := by
  cases test with
  | inSubquery word | inList word => exact ⟨_, _, rfl, .inl word⟩
  | between word => exact ⟨_, _, rfl, .inr (.inl word)⟩
  | like word => exact ⟨_, _, rfl, .inr (.inr word)⟩

/-- What follows the bit expression of a predicate. -/
inductive PredicateTail : List Token → Prop
  | nothing : PredicateTail []
  | test {negation negationTokens tokens} :
      Flag .NOT negation negationTokens → Test tokens → PredicateTail (negationTokens ++ tokens)

theorem predicate_split {tokens : List Token} (predicate : IsPredicate tokens) :
    ∃ first left, Joined IsSimple Precedence.bit? first ∧ PredicateTail left ∧
      tokens = first ++ left := by
  obtain ⟨node, derived⟩ := predicate
  cases derived with
  | inSubquery operand flag word query =>
      exact ⟨_, _, bitExpr_joined operand, .test flag (.inSubquery word query), by simp⟩
  | inList operand flag word opening items closing =>
      exact ⟨_, _, bitExpr_joined operand, .test flag (.inList word opening items closing), by simp⟩
  | between operand flag word lower operator upper =>
      exact ⟨_, _, bitExpr_joined operand, .test flag (.between word lower operator upper), by simp⟩
  | like operand flag word pattern escape =>
      exact ⟨_, _, bitExpr_joined operand, .test flag (.like word pattern escape), by simp⟩
  | bitExpr operand =>
      exact ⟨tokens, [], bitExpr_joined operand, .nothing, (List.append_nil tokens).symm⟩

theorem PredicateTail.predicate {first tokens : List Token} (tail : PredicateTail tokens)
    (joined : Joined IsSimple Precedence.bit? first) : IsPredicate (first ++ tokens) := by
  obtain ⟨node, operand⟩ := bitExpr_of_joined joined
  cases tail with
  | nothing =>
      rw [List.append_nil]
      exact ⟨_, .bitExpr operand⟩
  | test flag test =>
      rw [← List.append_assoc]
      cases test with
      | inSubquery word query => exact ⟨_, .inSubquery operand flag word query⟩
      | inList word opening items closing =>
          have derived := Derives.inList operand flag word opening items closing
          simp only [List.append_assoc, List.cons_append] at derived ⊢
          exact ⟨_, derived⟩
      | between word lower operator upper =>
          have derived := Derives.between operand flag word lower operator upper
          simp only [List.append_assoc, List.cons_append] at derived ⊢
          exact ⟨_, derived⟩
      | like word pattern escape =>
          have derived := Derives.like operand flag word pattern escape
          simp only [List.append_assoc, List.cons_append] at derived ⊢
          exact ⟨_, derived⟩

/-! ### Primaries -/

/-- A test or a comparison of what stands before it. -/
inductive Suffix : List Token → Prop
  | isTest {word value negation negationTokens} :
      word.kind = .keyword .IS → Flag .NOT negation negationTokens → isTruthValue value.kind →
      Suffix (word :: (negationTokens ++ [value]))
  | comparison {operator right after} :
      Precedence.isComparison operator.kind → DerivesWidely (.predicate right) after →
      Suffix (operator :: after)
  | quantified {operator quantifier query after} :
      Precedence.isComparison operator.kind → isQuantifier quantifier.kind →
      DerivesWidely (.subquery query) after → Suffix (operator :: quantifier :: after)

inductive Suffixes : List Token → Prop
  | nil : Suffixes []
  | cons {first others} : Suffix first → Suffixes others → Suffixes (first ++ others)

theorem Suffixes.concat {tokens others : List Token} (suffixes : Suffixes tokens)
    (suffix : Suffix others) : Suffixes (tokens ++ others) := by
  induction suffixes with
  | nil =>
      have single := Suffixes.cons suffix .nil
      rw [List.append_nil] at single
      exact single
  | cons first _ ih =>
      rw [List.append_assoc]
      exact .cons first ih

theorem primary_split {node : BooleanPrimary} {tokens : List Token}
    (derived : DerivesWidely (.primary node) tokens) :
    ∃ first left, IsPredicate first ∧ Suffixes left ∧ tokens = first ++ left := by
  match derived with
  | .isTest operand word flag value =>
      obtain ⟨first, left, predicate, suffixes, rfl⟩ := primary_split operand
      exact ⟨first, _, predicate, suffixes.concat (.isTest word flag value), by simp⟩
  | .comparison left operator right =>
      obtain ⟨first, left, predicate, suffixes, rfl⟩ := primary_split left
      exact ⟨first, _, predicate, suffixes.concat (.comparison operator right), by simp⟩
  | .quantified left operator quantifier query =>
      obtain ⟨first, left, predicate, suffixes, rfl⟩ := primary_split left
      exact ⟨first, _, predicate, suffixes.concat (.quantified operator quantifier query), by simp⟩
  | .predicate predicate => exact ⟨tokens, [], ⟨_, predicate⟩, .nil, (List.append_nil tokens).symm⟩

theorem Suffixes.primary {first tokens : List Token} (suffixes : Suffixes tokens)
    (primary : IsPrimary first) : IsPrimary (first ++ tokens) := by
  induction suffixes generalizing first with
  | nil =>
      rw [List.append_nil]
      exact primary
  | cons suffix _ ih =>
      rw [← List.append_assoc]
      refine ih ?_
      obtain ⟨node, derived⟩ := primary
      cases suffix with
      | isTest word flag value =>
          have tested := Derives.isTest derived word flag value
          simp only [List.append_assoc, List.cons_append] at tested
          exact ⟨_, tested⟩
      | comparison operator right => exact ⟨_, .comparison derived operator right⟩
      | quantified operator quantifier query =>
          exact ⟨_, .quantified derived operator quantifier query⟩

end AnnotatedSql.Grammar
