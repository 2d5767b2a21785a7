/-
This file shows that the parsers of bit expressions, predicates, primaries and expressions take
what the grammar derives.
-/

import AnnotatedSql.Proofs.Grammar.Backtracking.Expression
import AnnotatedSql.Proofs.Grammar.Completeness.Simple

namespace AnnotatedSql.Grammar.Parse

open Precedence

variable {Result : Type} {bound : Nat} {nested : Nested} {token : Token}
  {tokens others : List Token} {follow : TokenKind → Bool} {finish : Result → List Token → Prop}

/-! ### Bit expressions -/

/-- Of operators and operands those are left that start with an operator of a lower level. -/
theorem bitChain_accepts {start minimum highest rounds : Nat} {left : BitExpr}
    (inner : nested.Complete bound) (rest : Rest IsSimple bit? highest tokens)
    (enough : tokens.length ≤ rounds) :
    Parses (bound + 1) (bitChain nested start minimum rounds left) tokens endsBits fun _ remains =>
      Rest IsSimple bit? minimum remains := by
  induction rounds generalizing tokens highest left with
  | zero =>
      obtain rfl := List.length_eq_zero_iff.mp (Nat.le_zero.mp enough)
      exact parses_pure .nothing
  | succ rounds ih =>
      apply parses_kindAhead_bind
      intro kind ahead
      cases rest with
      | nothing =>
          have unlevelled : bit? kind = none := by
            simpa [endsBits] using (Bool.and_eq_true_iff.mp ahead).2
          rw [unlevelled]
          exact parses_pure .nothing
      | @further operator level others found least joined =>
          rw [show kind = operator.kind from ahead, found]
          dsimp only
          by_cases below : level < minimum
          · rw [if_pos below]
            exact parses_pure (.further found below joined)
          · rw [if_neg below]
            apply parses_terminal_bind
            apply (inner.bitExpr (level + 1) joined).shorter.bind
            intro right remains shorter
            apply parses_spanFrom_bind
            intro span
            apply Parses.here
            exact ih shorter.1 (Nat.le_trans shorter.2 (Nat.le_of_succ_le_succ enough))

theorem bits_bridge {highest : Nat} {kind : TokenKind} (rest : Rest IsSimple bit? highest tokens)
    (ahead : Ahead endsBits 0 tokens kind) : endsSimple kind := by
  cases rest with
  | nothing => exact endsBits.simple ahead
  | further found _ _ =>
      rw [Ahead] at ahead
      rw [ahead]
      exact endsSimple_of_bit (Option.isSome_of_eq_some found)

theorem bitExpr_accepts (minimum : Nat) (inner : nested.Complete bound)
    (joined : Joined IsSimple bit? tokens) :
    Parses (bound + 1) (bitExpr nested minimum) tokens endsBits fun _ left =>
      Rest IsSimple bit? minimum left := by
  obtain ⟨first, highest, left, simple, rest, rfl⟩ := joined.split
  apply parses_offset_bind
  intro start
  apply (simpleExpr_accepts inner simple).append_bind fun _ => bits_bridge rest
  intro value
  apply parses_remaining_bind
  intro rounds enough
  exact bitChain_accepts inner rest enough

/-! ### Predicates -/

theorem parses_negation_absent {rest : Option Span → Parser Result}
    (missing : ∀ kind, Ahead follow 0 tokens kind → kind ≠ .keyword .NOT)
    (next : Parses bound (rest none) tokens follow finish) :
    Parses bound (predicateNegation? >>= rest) tokens follow finish := by
  rw [predicateNegation?, bind_assoc]
  apply parses_atKind_absent missing
  rw [bind_assoc]
  apply parses_kindAhead_bind 1
  intro following _
  split <;> exact next

theorem parses_negation_bind {negation : Option Span} {negationTokens : List Token}
    {rest : Option Span → Parser Result} (flag : Flag .NOT negation negationTokens)
    (test : Test tokens) (next : ∀ found, Parses bound (rest found) tokens follow finish) :
    Parses bound (predicateNegation? >>= rest) (negationTokens ++ tokens) follow finish := by
  obtain ⟨word, others, rfl, found⟩ := test.word
  cases flag with
  | absent =>
      apply parses_negation_absent _ (next none)
      intro kind ahead same
      have found : kind = .keyword .IN ∨ kind = .keyword .BETWEEN ∨ kind = .keyword .LIKE := by
        rw [show kind = word.kind from ahead]
        exact found
      rw [same] at found
      exact absurd found (by decide)
  | present negated =>
      apply Parses.here
      rw [predicateNegation?, bind_assoc]
      apply parses_atKind_present negated
      rw [bind_assoc]
      apply parses_kindAhead_bind 1
      intro following ahead
      rw [show following = word.kind from ahead]
      rcases found with found | found | found <;>
        (rw [found]; dsimp only; rw [if_pos rfl, bind_assoc]; exact parses_terminal_bind (next _))

/-! ### What follows IN, BETWEEN and LIKE -/

section
variable {start : Nat} {operand : BitExpr} {negation : Option Span}

theorem membership_subquery {word : Token} {query : Subquery} (inner : nested.Complete bound)
    (derived : DerivesWidely (.subquery query) tokens) :
    Accepts (bound + 1) (membership nested start operand negation) (word :: tokens) follow := by
  have whole := derived
  cases derived with
  | subquery opening select closing =>
      cases select with
      | select found =>
          simp only [List.append_assoc, List.cons_append] at whole ⊢
          apply parses_advance_bind
          apply parses_atKind_present opening
          apply parses_kindAhead_bind 1
          intro following ahead
          rw [Ahead, Ahead, found] at ahead
          rw [decide_eq_true ahead, Bool.and_self, if_pos rfl]
          exact (subquery_accepts inner whole).here.covered

theorem membership_list {word opening closing : Token} {items : List Expr}
    (inner : nested.Complete bound) (opens : opening.kind = .symbol .leftParen)
    (derived : DerivesWidely (.exprs items) tokens) (closes : closing.kind = .symbol .rightParen) :
    Accepts (bound + 1) (membership nested start operand negation)
      (word :: opening :: (tokens ++ [closing])) follow := by
  apply parses_advance_bind
  apply parses_atKind_present opens
  apply parses_kindAhead_bind 1
  intro following ahead
  have started : startsOperand following := derived.ahead rfl ahead
  have listed : following ≠ .keyword .SELECT := by
    intro same
    rw [same] at started
    exact Bool.false_ne_true started
  rw [decide_eq_false listed, Bool.and_false, if_neg Bool.false_ne_true]
  apply Parses.here
  apply parses_expectKind_bind opens
  apply (exprList_accepts inner derived).append_bind (ahead_token closes rfl)
  intro values
  exact closed_accepts closes

theorem range_accepts {word operator : Token} {lower : BitExpr} {upper : Predicate}
    {middle after : List Token} (inner : nested.Complete bound)
    (first : DerivesWidely (.bitExpr lower) middle) (leads : operator.kind = .keyword .AND)
    (second : DerivesWidely (.predicate upper) after) :
    Accepts (bound + 1) (range nested start operand negation)
      (word :: (middle ++ operator :: after)) endsPredicate := by
  apply parses_advance_bind
  have taken : Accepts bound (nested.bitExpr 0) middle endsBits :=
    (inner.bitExpr 0 (bitExpr_joined first)).mono fun _ _ rest => rest.eq_nil
  apply taken.append_bind (ahead_token leads rfl)
  intro value
  apply Parses.here
  apply parses_expectKeyword_bind leads
  exact (inner.predicate ⟨_, second⟩).covered

theorem escape_accepts {node : Option SimpleExpr} (inner : nested.Complete bound)
    (derived : DerivesWidely (.escape node) tokens) :
    Accepts bound (escape? nested) tokens endsPredicate := by
  cases derived with
  | noEscape =>
      apply parses_atKind_absent
      · intro kind ends same
        rw [Ahead, same] at ends
        exact Bool.false_ne_true ends
      · exact parses_pure rfl
  | escape word character =>
      apply parses_atKind_present word
      apply Parses.here
      apply parses_advance_bind
      have taken : Accepts bound nested.simpleExpr _ endsPredicate :=
        (inner.simpleExpr ⟨_, character⟩).narrow fun _ ends =>
          endsBits.simple (endsPredicate.bits ends)
      exact taken.bind fun _ _ none => parses_pure none

theorem pattern_accepts {word : Token} {like : SimpleExpr} {escape : Option SimpleExpr}
    {middle after : List Token} (inner : nested.Complete bound)
    (first : DerivesWidely (.simpleExpr like) middle)
    (second : DerivesWidely (.escape escape) after) :
    Accepts (bound + 1) (pattern nested start operand negation) (word :: (middle ++ after))
      endsPredicate := by
  apply parses_advance_bind
  apply (inner.simpleExpr ⟨_, first⟩).append_bind
  · intro kind ahead
    rw [← List.append_nil after] at ahead
    rcases second.ahead_or ahead with started | ends
    · rw [beq_iff_eq.mp started]
      rfl
    · exact endsBits.simple (endsPredicate.bits ends)
  · intro value
    exact (escape_accepts inner second).covered

/-- The last step of the parser of predicates. -/
theorem test_accepts (inner : nested.Complete bound) (test : Test tokens) :
    Accepts (bound + 1)
      (do match ← kindAhead 0 with
          | .keyword .IN => membership nested start operand negation
          | .keyword .BETWEEN => range nested start operand negation
          | .keyword .LIKE => pattern nested start operand negation
          | _ => return .bitExpr operand)
      tokens endsPredicate := by
  apply parses_kindAhead_bind
  intro kind ahead
  cases test with
  | inSubquery word query =>
      rw [ahead, word]
      exact membership_subquery inner query
  | inList word opening items closing =>
      rw [ahead, word]
      exact membership_list inner opening items closing
  | between word lower operator upper =>
      rw [ahead, word]
      exact range_accepts inner lower operator upper
  | like word like escape =>
      rw [ahead, word]
      exact pattern_accepts inner like escape

theorem untested_accepts :
    Accepts bound
      (do match ← kindAhead 0 with
          | .keyword .IN => membership nested start operand negation
          | .keyword .BETWEEN => range nested start operand negation
          | .keyword .LIKE => pattern nested start operand negation
          | _ => return .bitExpr operand)
      [] endsPredicate := by
  apply parses_kindAhead_bind
  intro kind ends
  split
  · exact absurd ends Bool.false_ne_true
  · exact absurd ends Bool.false_ne_true
  · exact absurd ends Bool.false_ne_true
  · exact parses_pure rfl

end

theorem predicateTail_ahead {kind : TokenKind} (tail : PredicateTail tokens)
    (ahead : Ahead endsPredicate 0 tokens kind) : endsBits kind := by
  cases tail with
  | nothing => exact endsPredicate.bits ahead
  | test flag test =>
      obtain ⟨word, others, rfl, found⟩ := test.word
      cases flag with
      | absent =>
          rw [show kind = word.kind from ahead]
          rcases found with found | found | found <;> rw [found] <;> rfl
      | present negated => exact ahead_token negated rfl kind ahead

theorem predicate_accepts (inner : nested.Complete bound) (predicate : IsPredicate tokens) :
    Accepts (bound + 1) (Parse.predicate nested) tokens endsPredicate := by
  obtain ⟨first, left, joined, tail, rfl⟩ := predicate_split predicate
  apply parses_offset_bind
  intro start
  have taken : Accepts (bound + 1) (bitExpr nested 0) first endsBits :=
    (bitExpr_accepts 0 inner joined).mono fun _ _ rest => rest.eq_nil
  apply taken.append_bind fun _ => predicateTail_ahead tail
  intro operand
  cases tail with
  | nothing =>
      apply parses_negation_absent _ untested_accepts
      intro kind ends same
      rw [Ahead, same] at ends
      exact Bool.false_ne_true ends
  | test flag test => exact parses_negation_bind flag test fun _ => test_accepts inner test

/-! ### Tests and comparisons -/

theorem isTruthValue_cases {kind : TokenKind} (truth : isTruthValue kind) :
    kind = .keyword .TRUE ∨ kind = .keyword .FALSE ∨ kind = .keyword .UNKNOWN ∨
      kind = .keyword .NULL := by
  unfold isTruthValue at truth
  split at truth
  · exact .inl rfl
  · exact .inr (.inl rfl)
  · exact .inr (.inr (.inl rfl))
  · exact .inr (.inr (.inr rfl))
  · exact absurd truth Bool.false_ne_true

theorem truthTest_accepts {start : Nat} {operand : BooleanPrimary} {word value : Token}
    {negation : Option Span} {negationTokens : List Token}
    (flag : Flag .NOT negation negationTokens) (truth : isTruthValue value.kind) :
    Accepts (bound + 1) (truthTest start operand) (word :: (negationTokens ++ [value])) follow := by
  have tested (found : Option Span) {rest : TokenKind → Parser BooleanPrimary}
      (takes : ∀ kind, isTruthValue kind → rest kind = do
        let value ← terminal
        let span ← spanFrom start
        return BooleanPrimary.isTest span operand found value) :
      Parses bound (kindAhead 0 >>= rest) [value] follow fun _ left => left = [] := by
    apply Parses.here
    apply parses_kindAhead_bind
    intro kind ahead
    rw [← show kind = value.kind from ahead] at truth
    rw [takes kind truth]
    apply parses_terminal_bind
    exact parses_covered fun _ => rfl
  apply parses_advance_bind
  cases flag with
  | absent =>
      refine parses_keyword_absent ?_ (tested none ?_)
      · intro kind ahead same
        rw [← show kind = value.kind from ahead, same] at truth
        exact Bool.false_ne_true truth
      · intro kind truth
        rcases isTruthValue_cases truth with rfl | rfl | rfl | rfl <;> rfl
  | present negated =>
      apply Parses.here
      apply parses_keyword_present negated
      apply tested
      intro kind truth
      rcases isTruthValue_cases truth with rfl | rfl | rfl | rfl <;> rfl

theorem comparison_accepts {start : Nat} {left : BooleanPrimary} {operator : Token}
    {right : Predicate} (inner : nested.Complete bound)
    (derived : DerivesWidely (.predicate right) tokens) :
    Accepts (bound + 1) (comparison nested start left) (operator :: tokens) endsPredicate := by
  apply parses_terminal_bind
  apply parses_kindAhead_bind
  intro kind ahead
  rw [← List.append_nil tokens] at ahead
  have started : startsOperand kind := derived.ahead rfl ahead
  split
  · exact absurd started Bool.false_ne_true
  · exact absurd started Bool.false_ne_true
  · exact absurd started Bool.false_ne_true
  · exact (inner.predicate ⟨_, derived⟩).covered

theorem quantified_accepts {start : Nat} {left : BooleanPrimary} {operator quantifier : Token}
    {query : Subquery} (inner : nested.Complete bound) (quantifies : isQuantifier quantifier.kind)
    (derived : DerivesWidely (.subquery query) tokens) :
    Accepts (bound + 1) (comparison nested start left) (operator :: quantifier :: tokens)
      follow := by
  apply parses_terminal_bind
  apply parses_kindAhead_bind
  intro kind ahead
  rw [← show kind = quantifier.kind from ahead] at quantifies
  have taken : Parses bound
      (do let quantifier ← terminal
          let query ← subquery nested
          let span ← spanFrom start
          return BooleanPrimary.quantified span left operator.span quantifier query)
      (quantifier :: tokens) follow fun _ left => left = [] := by
    apply Parses.here
    apply parses_terminal_bind
    exact (subquery_accepts inner derived).here.covered
  unfold isQuantifier at quantifies
  split at quantifies
  · exact taken
  · exact taken
  · exact taken
  · exact absurd quantifies Bool.false_ne_true

theorem suffixes_ahead {kind : TokenKind} (suffixes : Suffixes tokens)
    (ahead : Ahead endsPrimary 0 tokens kind) : endsPredicate kind := by
  cases suffixes with
  | nil => exact endsPrimary.predicate ahead
  | cons suffix _ =>
      cases suffix with
      | isTest word => exact ahead_token word rfl kind ahead
      | @comparison operator _ _ compares | @quantified operator _ _ _ compares =>
          rw [show kind = operator.kind from ahead]
          exact endsPredicate_of_comparison compares

theorem ne_is_of_isComparison {kind : TokenKind} (compares : isComparison kind) :
    kind ≠ .keyword .IS := by
  intro same
  rw [same] at compares
  exact Bool.false_ne_true compares

theorem primaryChain_accepts {start rounds : Nat} {left : BooleanPrimary}
    (inner : nested.Complete bound) (suffixes : Suffixes tokens) (enough : tokens.length ≤ rounds) :
    Accepts (bound + 1) (primaryChain nested start rounds left) tokens endsPrimary := by
  induction rounds generalizing tokens left with
  | zero => exact parses_pure (List.length_eq_zero_iff.mp (Nat.le_zero.mp enough))
  | succ rounds ih =>
      apply parses_kindAhead_bind
      intro kind ahead
      cases suffixes with
      | nil =>
          have untested : kind ≠ .keyword .IS := bne_iff_ne.mp (Bool.and_eq_true_iff.mp ahead).2
          have uncompared : isComparison kind = false := by
            simpa using (Bool.and_eq_true_iff.mp (Bool.and_eq_true_iff.mp ahead).1).2
          rw [if_neg untested, uncompared, if_neg Bool.false_ne_true]
          exact parses_pure rfl
      | @cons first others suffix rest =>
          have shorter : 0 < first.length → others.length ≤ rounds := by
            rw [List.length_append] at enough
            omega
          cases suffix with
          | @isTest word value _ negationTokens leads flag truth =>
              rw [show kind = word.kind from ahead, leads, if_pos rfl]
              have taken : Accepts (bound + 1) (truthTest start left)
                  (word :: (negationTokens ++ [value])) fun _ => true :=
                truthTest_accepts flag truth
              apply taken.append_bind (fun _ _ => rfl)
              exact fun _ => ih rest (shorter (by simp))
          | @comparison operator _ _ compares right =>
              rw [← show kind = operator.kind from ahead] at compares
              rw [if_neg (ne_is_of_isComparison compares), if_pos compares]
              apply (comparison_accepts inner right).append_bind fun _ => suffixes_ahead rest
              exact fun _ => ih rest (shorter (by simp))
          | @quantified operator quantifier _ after compares quantifies query =>
              rw [← show kind = operator.kind from ahead] at compares
              rw [if_neg (ne_is_of_isComparison compares), if_pos compares]
              have taken : Accepts (bound + 1) (comparison nested start left)
                  (operator :: quantifier :: after) fun _ => true :=
                quantified_accepts inner quantifies query
              apply taken.append_bind (fun _ _ => rfl)
              exact fun _ => ih rest (shorter (by simp))

theorem booleanPrimary_accepts (inner : nested.Complete bound) (primary : IsPrimary tokens) :
    Accepts (bound + 1) (booleanPrimary nested) tokens endsPrimary := by
  obtain ⟨node, derived⟩ := primary
  obtain ⟨first, left, predicate, suffixes, rfl⟩ := primary_split derived
  apply parses_offset_bind
  intro start
  apply (predicate_accepts inner predicate).append_bind fun _ => suffixes_ahead suffixes
  intro value
  apply parses_remaining_bind
  intro rounds enough
  exact primaryChain_accepts inner suffixes enough

theorem primaryExpr_accepts (inner : nested.Complete bound) (primary : IsPrimary tokens) :
    Accepts (bound + 1) (primaryExpr nested) tokens endsPrimary := by
  apply (booleanPrimary_accepts inner primary).bind
  intro value left none
  exact parses_pure none

/-! ### Operands -/

theorem negated_accepts {operator : Token} (inner : nested.Complete bound) (chain : Chain tokens) :
    Parses (bound + 1) (negated nested) (operator :: tokens) endsExpr fun _ left =>
      Rest Operand logical? negation left := by
  apply parses_offset_bind
  intro start
  apply parses_terminal_bind
  exact (inner.expr negation chain).covered

theorem enclosed_whole {inside : List Token} {opening closing : Token}
    (inner : nested.Complete bound) (expr : IsExpr inside)
    (closes : closing.kind = .symbol .rightParen)
    (ends : ∀ kind, Ahead follow 0 others kind → continuesOperand kind = false) :
    Parses (bound + 1) (enclosed? nested) (opening :: (inside ++ closing :: others)) follow
      fun value left => value.isSome ∧ left = others := by
  obtain ⟨node, derived⟩ := expr
  apply parses_offset_bind
  intro start
  apply parses_advance_bind
  apply (inner.whole derived).append_bind (ahead_token closes rfl)
  intro value
  apply parses_atKind_present closes
  apply Parses.here
  apply parses_advance_bind
  apply parses_kindAhead_bind
  intro following ahead
  rw [ends following ahead, if_neg Bool.false_ne_true]
  exact parses_covered fun _ => ⟨rfl, rfl⟩

theorem enclosed_list {inside : List Token} {opening comma : Token} (inner : nested.Complete bound)
    (expr : IsExpr inside) (separates : comma.kind = .symbol .comma) :
    Parses (bound + 1) (enclosed? nested) (opening :: (inside ++ comma :: others)) follow
      fun value _ => value = none := by
  obtain ⟨node, derived⟩ := expr
  apply parses_offset_bind
  intro start
  apply parses_advance_bind
  apply (inner.whole derived).append_bind (ahead_token separates rfl)
  intro value
  apply parses_atKind_absent (ahead_ne separates (by decide))
  exact parses_pure rfl

theorem enclosed_continued {inside : List Token} {opening closing next : Token}
    (inner : nested.Complete bound) (expr : IsExpr inside)
    (closes : closing.kind = .symbol .rightParen) (continues : continuesOperand next.kind) :
    Parses (bound + 1) (enclosed? nested) (opening :: (inside ++ closing :: next :: others)) follow
      fun value _ => value = none := by
  obtain ⟨node, derived⟩ := expr
  apply parses_offset_bind
  intro start
  apply parses_advance_bind
  apply (inner.whole derived).append_bind (ahead_token closes rfl)
  intro value
  apply parses_atKind_present closes
  apply Parses.here
  apply parses_advance_bind
  apply parses_kindAhead_bind
  intro following ahead
  rw [show following = next.kind from ahead, if_pos continues]
  exact parses_pure rfl

/-- Where a parenthesis encloses an operand, this is taken. -/
theorem parenthesised_whole {finish : Expr → List Token → Prop} {left : List Token}
    (taken : Parses bound (enclosed? nested) tokens follow fun value remains =>
      value.isSome ∧ remains = left)
    (held : ∀ node, finish node left) :
    Parses bound (parenthesisedOrPrimary .always nested) tokens follow finish := by
  intro cursor few offers
  obtain ⟨value, after, consumed, remains, run, whole, reads, some, rfl⟩ := taken cursor few offers
  obtain ⟨node, rfl⟩ := Option.isSome_iff_exists.mp some
  refine ⟨node, after, consumed, remains, ?_, whole, reads, held node⟩
  rw [parenthesisedOrPrimary, bind_run, parenthesised_always, run]
  rfl

/-- Where it encloses none, a primary is taken from the same place. -/
theorem parenthesised_primary {finish : Expr → List Token → Prop}
    (tried : Parses bound (enclosed? nested) tokens follow fun value _ => value = none)
    (taken : Parses bound (primaryExpr nested) tokens follow finish) :
    Parses bound (parenthesisedOrPrimary .always nested) tokens follow finish := by
  intro cursor few offers
  obtain ⟨value, later, _, _, run, _, _, rfl⟩ := tried cursor few offers
  have place : (cursor.giveUp later).Offers tokens follow := ⟨offers.unread, offers.follow⟩
  obtain ⟨node, after, consumed, left, primaryRun, whole, reads, held⟩ :=
    taken (cursor.giveUp later) few place
  refine ⟨node, after, consumed, left, ?_, whole,
    ⟨reads.unread, reads.ending, reads.lastStop⟩, held⟩
  rw [parenthesisedOrPrimary, bind_run, parenthesised_always, run]
  exact primaryRun

theorem chain_ahead {highest : Nat} {kind : TokenKind} (rest : Rest Operand logical? highest tokens)
    (ahead : Ahead endsExpr 0 tokens kind) : endsPrimary kind := by
  cases rest with
  | nothing => exact endsExpr.primary ahead
  | @further operator _ _ found _ _ =>
      rw [show kind = operator.kind from ahead]
      exact endsPrimary_of_logical (Option.isSome_of_eq_some found)

theorem ne_select_of_isExpr {inside : List Token} {kind : TokenKind} (expr : IsExpr inside)
    (ahead : Ahead follow 0 (inside ++ others) kind) : kind ≠ .keyword .SELECT := by
  obtain ⟨node, derived⟩ := expr
  have started : startsOperand kind := derived.ahead rfl ahead
  intro same
  rw [same] at started
  exact Bool.false_ne_true started

theorem opened_accepts {opening : Token} {highest : Nat} (inner : nested.Complete bound)
    (opened : Opened opening tokens) (rest : Rest Operand logical? highest others) :
    Parses (bound + 1)
      (do let following ← kindAhead 1
          if following = .keyword .SELECT then primaryExpr nested
          else parenthesisedOrPrimary .always nested)
      (opening :: (tokens ++ others)) endsExpr fun _ left => left = others := by
  apply parses_kindAhead_bind 1
  intro following ahead
  rw [Ahead] at ahead
  cases opened with
  | @query word _ select primary =>
      rw [if_pos (show following = .keyword .SELECT from Eq.trans ahead select)]
      exact (primaryExpr_accepts inner primary).append fun _ => chain_ahead rest
  | whole expr closes =>
      rw [List.append_assoc] at ahead ⊢
      rw [if_neg (ne_select_of_isExpr expr ahead)]
      have ends (kind : TokenKind) (follows : Ahead endsExpr 0 others kind) :
          continuesOperand kind = false := endsPrimary.continuesOperand (chain_ahead rest follows)
      exact parenthesised_whole (enclosed_whole inner expr closes ends) fun _ => rfl
  | list expr separates primary =>
      have taken := (primaryExpr_accepts inner primary).append fun _ => chain_ahead rest
      simp only [List.append_assoc, List.cons_append] at ahead taken ⊢
      rw [if_neg (ne_select_of_isExpr expr ahead)]
      exact parenthesised_primary (enclosed_list inner expr separates) taken
  | continued expr closes continues primary =>
      have taken := (primaryExpr_accepts inner primary).append fun _ => chain_ahead rest
      simp only [List.append_assoc, List.cons_append] at ahead taken ⊢
      rw [if_neg (ne_select_of_isExpr expr ahead)]
      exact parenthesised_primary (enclosed_continued inner expr closes continues) taken

/-- Of the operands and connectives of an expression at least the first operand is taken, and at
most up to some connective. -/
theorem operand_accepts (inner : nested.Complete bound) (chain : Chain tokens) :
    Parses (bound + 1) (operand .always nested) tokens endsExpr fun _ left =>
      ∃ highest, Rest Operand logical? highest left := by
  obtain ⟨first, highest, left, operand, rest, rfl⟩ := Joined.split chain
  obtain ⟨token, more, rfl⟩ := List.exists_cons_of_ne_nil operand.nonempty
  apply parses_kindAhead_bind
  intro kind ahead
  rw [List.cons_append, Ahead] at ahead
  have negated (negates : isNegation token.kind) :
      Parses (bound + 1) (negated nested) (token :: (more ++ left)) endsExpr fun _ left =>
        ∃ highest, Rest Operand logical? highest left := by
    have chain : Chain (more ++ left) := rest.joined (operand.of_negation negates)
    exact (negated_accepts inner chain).mono fun _ _ rest => ⟨negation, rest⟩
  split
  · exact negated (by rw [← ahead]; rfl)
  · exact negated (by rw [← ahead]; rfl)
  · have taken := opened_accepts inner (operand.opened ahead.symm) rest
    exact taken.mono fun _ _ same => ⟨highest, same ▸ rest⟩
  · rename_i word sign paren
    have other : isNegation token.kind = false := by
      rw [← ahead]
      unfold isNegation
      split
      · exact absurd rfl word
      · exact absurd rfl sign
      · rfl
    have primary := operand.primary_of_other other fun opens => paren (ahead.trans opens)
    have taken := (primaryExpr_accepts inner primary).append fun _ => chain_ahead rest
    exact taken.mono fun _ _ same => ⟨highest, same ▸ rest⟩

/-! ### Expressions -/

theorem logicalChain_accepts {start minimum highest rounds : Nat} {left : Expr}
    (inner : nested.Complete bound) (rest : Rest Operand logical? highest tokens)
    (enough : tokens.length ≤ rounds) :
    Parses (bound + 1) (logicalChain nested start minimum rounds left) tokens endsExpr
      fun _ remains => Rest Operand logical? minimum remains := by
  induction rounds generalizing tokens highest left with
  | zero =>
      obtain rfl := List.length_eq_zero_iff.mp (Nat.le_zero.mp enough)
      exact parses_pure .nothing
  | succ rounds ih =>
      apply parses_kindAhead_bind
      intro kind ahead
      cases rest with
      | nothing =>
          have unlevelled : logical? kind = none := by
            simpa using (Bool.and_eq_true_iff.mp ahead).2
          rw [unlevelled]
          exact parses_pure .nothing
      | @further operator level others found least joined =>
          rw [show kind = operator.kind from ahead, found]
          dsimp only
          by_cases below : level < minimum
          · rw [if_pos below]
            exact parses_pure (.further found below joined)
          · rw [if_neg below]
            apply parses_terminal_bind
            apply (inner.expr (level + 1) joined).shorter.bind
            intro right remains shorter
            apply parses_spanFrom_bind
            intro span
            apply Parses.here
            have fewer := Nat.le_trans shorter.2 (Nat.le_of_succ_le_succ enough)
            split
            · exact ih shorter.1 fewer
            · exact ih shorter.1 fewer

theorem expr_accepts (minimum : Nat) (inner : nested.Complete bound) (chain : Chain tokens) :
    Parses (bound + 1) (expr .always nested minimum) tokens endsExpr fun _ left =>
      Rest Operand logical? minimum left := by
  apply parses_offset_bind
  intro start
  apply (operand_accepts inner chain).bind
  intro first left found
  obtain ⟨highest, rest⟩ := found
  apply parses_remaining_bind
  intro rounds enough
  exact logicalChain_accepts inner rest enough

end AnnotatedSql.Grammar.Parse
