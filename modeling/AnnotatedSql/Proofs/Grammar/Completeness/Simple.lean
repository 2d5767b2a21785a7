/-
This file shows that the parser of simple expressions takes what the grammar derives.
-/

import AnnotatedSql.Proofs.Grammar.Completeness.Call

namespace AnnotatedSql.Grammar.Parse

open Precedence

variable {Result : Type} {bound : Nat} {nested : Nested} {token : Token}
  {tokens others : List Token} {follow : TokenKind → Bool} {finish : Result → List Token → Prop}

/-! ### Single tokens and operators -/

theorem literal_accepts : Accepts (bound + 1) literal [token] follow := by
  apply parses_kindAhead_bind
  intro kind _
  apply parses_terminal_bind
  exact parses_pure rfl

theorem marker_accepts : Accepts (bound + 1) marker [token] follow := by
  apply parses_terminal_bind
  exact parses_pure rfl

theorem negativeNumber_accepts {sign number : Token} :
    Accepts (bound + 1) negativeNumber [sign, number] follow := by
  apply parses_offset_bind
  intro start
  apply parses_advance_bind
  apply Parses.here
  apply parses_advance_bind
  exact parses_covered fun _ => rfl

theorem unary_accepts {operator : Token} (inner : nested.Complete bound)
    (operand : IsSimple tokens) : Accepts (bound + 1) (unary nested) (operator :: tokens) endsSimple := by
  apply parses_offset_bind
  intro start
  apply parses_terminal_bind
  exact (inner.simpleExpr operand).covered

/-- A minus sign before a number is taken with it, even where the grammar may read it alone. -/
theorem minus_accepts {sign : Token} (inner : nested.Complete bound) (operand : IsSimple tokens) :
    Accepts (bound + 1) (minus nested) (sign :: tokens) endsSimple := by
  obtain ⟨first, rest, rfl⟩ := List.exists_cons_of_ne_nil operand.nonempty
  apply parses_kindAhead_bind
  intro following ahead
  rw [Ahead, Ahead] at ahead
  by_cases number : following = .number
  · rw [if_pos number]
    rw [ahead] at number
    obtain rfl := simple_of_number operand number
    exact negativeNumber_accepts
  · rw [if_neg number]
    exact unary_accepts inner operand

/-! ### Subqueries and rows -/

theorem existence_accepts {word : Token} {query : Subquery} (inner : nested.Complete bound)
    (derived : DerivesWidely (.subquery query) tokens) :
    Accepts (bound + 1) (existence nested) (word :: tokens) follow := by
  apply parses_offset_bind
  intro start
  apply parses_terminal_bind
  exact (subquery_accepts inner derived).here.covered

theorem bareSubquery_accepts {query : Subquery} (inner : nested.Complete bound)
    (derived : DerivesWidely (.subquery query) tokens) :
    Accepts (bound + 1) (bareSubquery nested) tokens follow := by
  apply (subquery_accepts inner derived).bind
  intro value left none
  exact parses_pure none

theorem row_accepts {items : List Expr} {opening closing : Token} (inner : nested.Complete bound)
    (derived : DerivesWidely (.exprs items) tokens) (closes : closing.kind = .symbol .rightParen) :
    Accepts (bound + 1) (row nested) (opening :: (tokens ++ [closing])) follow := by
  apply parses_offset_bind
  intro start
  apply parses_advance_bind
  apply (exprList_accepts inner derived).append_bind (ahead_token closes rfl)
  intro values
  exact closed_accepts closes

/-! ### CASE -/

theorem caseBranch_accepts {opening word : Token} {condition result : Expr}
    {before after : List Token} (inner : nested.Complete bound)
    (first : DerivesWidely (.expr condition) before) (leads : word.kind = .keyword .THEN)
    (second : DerivesWidely (.expr result) after) :
    Accepts (bound + 1) (caseBranch nested) (opening :: (before ++ word :: after)) endsExpr := by
  apply parses_offset_bind
  intro start
  apply parses_advance_bind
  apply (inner.whole first).append_bind (ahead_token leads rfl)
  intro value
  apply Parses.here
  apply parses_expectKeyword_bind leads
  exact (inner.whole second).covered

/-- What may follow the branches of CASE. -/
def endsBranches (kind : TokenKind) : Bool := endsExpr kind && kind != .keyword .WHEN

theorem branches_ends {branches : List CaseBranch} {kind : TokenKind}
    (derived : DerivesWidely (.branches branches) tokens)
    (ahead : Ahead endsBranches 0 tokens kind) : endsExpr kind := by
  rw [← List.append_nil tokens] at ahead
  rcases derived.ahead_or ahead with started | ends
  · rw [beq_iff_eq.mp started]
    rfl
  · exact (Bool.and_eq_true_iff.mp ends).1

theorem caseBranchesUpTo_accepts {branches : List CaseBranch} {rounds : Nat}
    (inner : nested.Complete bound) (derived : DerivesWidely (.branches branches) tokens)
    (enough : tokens.length ≤ rounds) :
    Parses bound (caseBranchesUpTo nested rounds) tokens endsBranches fun values left =>
      left = [] ∧ values.length = branches.length := by
  induction branches generalizing tokens rounds with
  | nil =>
      cases derived with
      | noBranch =>
          cases rounds with
          | zero => exact parses_pure ⟨rfl, rfl⟩
          | succ rounds =>
              apply parses_atKind_absent
              · exact fun kind ends => bne_iff_ne.mp (Bool.and_eq_true_iff.mp ends).2
              · exact parses_pure ⟨rfl, rfl⟩
  | cons first rest ih =>
      cases derived with
      | branch opening condition word result others =>
          rw [List.length_append, List.length_append, List.length_cons] at enough
          obtain ⟨rounds, rfl⟩ := Nat.exists_eq_add_one_of_ne_zero (by omega : rounds ≠ 0)
          apply parses_atKind_present opening
          apply (caseBranch_accepts inner condition word result).here.append_bind
          · exact fun _ => branches_ends others
          · intro value
            apply (ih others (by omega)).bind
            intro values left found
            exact parses_pure ⟨found.1, congrArg (· + 1) found.2⟩

theorem parses_caseOperand_bind {node : Option SimpleExpr} {opening : Token}
    {rest : Option SimpleExpr → Parser Result} (inner : nested.Complete bound)
    (derived : DerivesWidely (.simpleExpr? node) tokens) (opens : opening.kind = .keyword .WHEN)
    (next : ∀ value, Parses bound (rest value) (opening :: others) follow finish) :
    Parses bound (caseOperand? nested >>= rest) (tokens ++ opening :: others) follow finish := by
  rw [caseOperand?, bind_assoc]
  cases derived with
  | noSimpleExpr =>
      apply parses_atKind_present opens
      exact next none
  | someSimpleExpr operand =>
      apply parses_atKind_absent
      · intro kind ahead same
        have started : startsOperand kind := operand.ahead rfl ahead
        rw [same] at started
        exact Bool.false_ne_true started
      · rw [if_neg Bool.false_ne_true, bind_assoc]
        apply (inner.simpleExpr ⟨_, operand⟩).append_bind (ahead_token opens rfl)
        exact fun value => next (some value)

theorem branches_opened {branches : List CaseBranch}
    (derived : DerivesWidely (.branches branches) tokens) (nonempty : branches ≠ []) :
    ∃ opening rest, tokens = opening :: rest ∧ opening.kind = .keyword .WHEN := by
  cases derived with
  | noBranch => exact absurd rfl nonempty
  | branch opening => exact ⟨_, _, rfl, opening⟩

theorem otherwise_ahead {node : Option Expr} {closing : Token} {kind : TokenKind}
    (derived : DerivesWidely (.ledExpr .ELSE node) tokens) (closes : closing.kind = .keyword .END)
    (ahead : Ahead follow 0 (tokens ++ [closing]) kind) : endsBranches kind := by
  rcases derived.ahead_or ahead with started | ahead
  · rw [beq_iff_eq.mp started]
    rfl
  · exact ahead_token closes rfl kind ahead

theorem caseExpr_accepts {word closing : Token} {operand : Option SimpleExpr}
    {branches : List CaseBranch} {otherwise : Option Expr} {before middle after : List Token}
    (inner : nested.Complete bound) (first : DerivesWidely (.simpleExpr? operand) before)
    (derived : DerivesWidely (.branches branches) middle) (nonempty : branches ≠ [])
    (last : DerivesWidely (.ledExpr .ELSE otherwise) after)
    (closes : closing.kind = .keyword .END) :
    Accepts (bound + 1) (caseExpr nested) (word :: (before ++ (middle ++ (after ++ [closing]))))
      follow := by
  obtain ⟨opening, rest, rfl, opens⟩ := branches_opened derived nonempty
  rw [List.cons_append]
  apply parses_offset_bind
  intro start
  apply parses_advance_bind
  apply parses_caseOperand_bind inner first opens
  intro value
  apply parses_remaining_bind
  intro rounds enough
  rw [← List.cons_append, List.length_append] at enough
  have taken := caseBranchesUpTo_accepts inner derived (Nat.le_of_add_right_le enough)
  apply (taken.leaving fun _ => otherwise_ahead last closes).bind
  intro values left found
  obtain ⟨rfl, same⟩ := found
  have some : values.isEmpty = false := by
    cases values with
    | nil => exact absurd (List.length_eq_zero_iff.mp same.symm) nonempty
    | cons => rfl
  rw [some, if_neg Bool.false_ne_true]
  have ended : Accepts bound (otherwise? nested) after (· == .keyword .END) :=
    ledExpr_accepts inner last fun kind ends => by
      rw [beq_iff_eq.mp ends]
      exact ⟨by decide, rfl⟩
  apply ended.append_bind (ahead_token closes rfl)
  intro value
  apply Parses.here
  apply parses_expectKeyword_bind closes
  exact parses_covered fun _ => rfl

/-! ### Names and calls -/

theorem aggregate_accepts {name opening closing : Token} {distinct : Option Span}
    {before after : List Token} (inner : nested.Complete bound) (named : namesAggregate name)
    (opens : opening.kind = .symbol .leftParen) (flag : Flag .DISTINCT distinct before)
    (arguments : Arguments after) (closes : closing.kind = .symbol .rightParen) :
    Accepts (bound + 1) (nameOrCall nested) (name :: opening :: (before ++ (after ++ [closing])))
      follow := by
  apply parses_current_bind
  apply parses_kindAhead_bind 1
  intro following ahead
  rw [Ahead, Ahead, opens] at ahead
  rw [if_pos ahead, if_pos named]
  apply (aggregationCall_accepts inner opens flag arguments closes).bind
  intro value left none
  exact parses_pure none

/-- Where the name is that of an aggregate, the call is taken as one of it. -/
theorem call_accepts {name opening closing : Token} (inner : nested.Complete bound)
    (named : name.kind.isName) (opens : opening.kind = .symbol .leftParen)
    (arguments : Arguments tokens) (closes : closing.kind = .symbol .rightParen) :
    Accepts (bound + 1) (nameOrCall nested) (name :: opening :: (tokens ++ [closing])) follow := by
  by_cases aggregates : namesAggregate name
  · exact aggregate_accepts inner aggregates opens .absent arguments closes
  · apply parses_current_bind
    apply parses_kindAhead_bind 1
    intro following ahead
    rw [Ahead, Ahead, opens] at ahead
    rw [if_pos ahead, if_neg aggregates]
    apply (regularCall_accepts inner named opens arguments closes).bind
    intro value left none
    exact parses_pure none

theorem column_accepts {name : QualifiedName} (derived : name.Derives tokens) :
    Accepts (bound + 1) (nameOrCall nested) tokens endsSimple := by
  have uncalled {token : Token} {rest : List Token} (derived : name.Derives (token :: rest))
      (kind : TokenKind) (ahead : Ahead endsSimple 1 (token :: rest) kind) :
      kind ≠ .symbol .leftParen := by
    intro opens
    cases derived with
    | plain =>
        rw [Ahead, Ahead, opens] at ahead
        exact Bool.false_ne_true ahead
    | owned _ dot =>
        rw [Ahead, Ahead, dot, opens] at ahead
        exact absurd ahead (by decide)
  obtain ⟨first, rest, rfl⟩ := List.exists_cons_of_ne_nil derived.nonempty
  apply parses_current_bind
  apply parses_kindAhead_bind 1
  intro following ahead
  rw [if_neg (uncalled derived following ahead)]
  have taken : Accepts (bound + 1) qualifiedName (first :: rest) endsSimple :=
    (qualifiedName_accepts derived).narrow fun _ => ne_dot_of_endsSimple
  exact taken.bind fun _ _ none => parses_pure none

/-! ### All simple expressions -/

/-- A name leads to a column or to a call. -/
theorem simpleExpr_of_name {finish : SimpleExpr → List Token → Prop} (named : token.kind.isName)
    (next : Parses bound (nameOrCall nested) (token :: tokens) follow finish) :
    Parses bound (simpleExpr nested) (token :: tokens) follow finish := by
  apply parses_kindAhead_bind
  intro kind ahead
  rw [Ahead] at ahead
  rw [← ahead] at named
  split <;> try first | exact next | exact absurd named Bool.false_ne_true
  · rw [TokenKind.isName] at named
    rw [if_pos named]
    exact next
  · rename_i words plain quoted
    rcases isName_cases named with found | found | ⟨word, found, _⟩
    · exact absurd found plain
    · exact absurd found quoted
    · exact absurd found (words word)

/-- The word that a function with a form of its own starts with. -/
def leadingWord : SpecialCall → Keyword
  | .cast _ => .CAST
  | .substring _ _ => .SUBSTRING
  | .extract _ _ _ => .EXTRACT
  | .trim _ _ => .TRIM

theorem special_opened {call : SpecialCall} (derived : DerivesWidely (.special call) tokens) :
    ∃ name opening rest, tokens = name :: opening :: rest ∧
      name.kind = .keyword (leadingWord call) ∧ opening.kind = .symbol .leftParen := by
  cases derived with
  | cast name opening | substring name opening | extract name opening | trim name opening =>
      simp only [List.append_assoc, List.cons_append]
      exact ⟨_, _, _, rfl, name, opening⟩

/-- Such a word leads to its call. -/
theorem simpleExpr_of_special {call : SpecialCall} (inner : nested.Complete bound)
    (derived : DerivesWidely (.special call) tokens) :
    Accepts (bound + 1) (simpleExpr nested) tokens follow := by
  obtain ⟨name, opening, rest, rfl, named, opens⟩ := special_opened derived
  have taken : Accepts (bound + 1) (specialCall nested (leadingWord call))
      (name :: opening :: rest) follow := by
    apply parses_kindAhead_bind 1
    intro following ahead
    rw [Ahead, Ahead, opens] at ahead
    rw [if_pos ahead]
    cases call with
    | cast => exact (castCall_accepts inner derived).bind fun _ _ none => parses_pure none
    | substring => exact (substringCall_accepts inner derived).bind fun _ _ none => parses_pure none
    | extract => exact (extractCall_accepts inner derived).bind fun _ _ none => parses_pure none
    | trim => exact (trimCall_accepts inner derived).bind fun _ _ none => parses_pure none
  apply parses_kindAhead_bind
  intro kind ahead
  rw [Ahead, named] at ahead
  rw [ahead]
  cases call <;> exact taken

/-- A parenthesis leads to a subquery or a row. -/
theorem parenthesis_subquery {query : Subquery} (inner : nested.Complete bound)
    (derived : DerivesWidely (.subquery query) tokens) :
    Accepts (bound + 1) (parenthesis nested) tokens follow := by
  have whole := derived
  cases derived with
  | subquery opening select closing =>
      cases select with
      | select word =>
          simp only [List.append_assoc, List.cons_append] at whole ⊢
          apply parses_kindAhead_bind 1
          intro following ahead
          rw [Ahead, Ahead, word] at ahead
          rw [if_pos ahead]
          exact bareSubquery_accepts inner whole

theorem parenthesis_row {items : List Expr} {opening closing : Token}
    (inner : nested.Complete bound)
    (derived : DerivesWidely (.exprs items) tokens) (closes : closing.kind = .symbol .rightParen) :
    Accepts (bound + 1) (parenthesis nested) (opening :: (tokens ++ [closing])) follow := by
  apply parses_kindAhead_bind 1
  intro following ahead
  rw [if_neg]
  · exact row_accepts inner derived closes
  · intro same
    have started : startsOperand following := derived.ahead rfl ahead
    rw [same] at started
    exact Bool.false_ne_true started

theorem simpleExpr_of_literal {literal : Literal} (inner : nested.Complete bound)
    (derived : literal.Derives tokens) :
    Accepts (bound + 1) (simpleExpr nested) tokens endsSimple := by
  apply parses_kindAhead_bind
  intro kind ahead
  cases derived with
  | string found | number found | hexadecimal found | bitValue found | null found =>
      rw [ahead, found]
      exact literal_accepts
  | boolean found =>
      rcases found with found | found
      · rw [ahead, found]
        exact literal_accepts
      · rw [ahead, found]
        exact literal_accepts
  | negativeNumber sign number =>
      rw [ahead, sign]
      exact minus_accepts inner ⟨_, .literal (.number number)⟩

theorem simpleExpr_of_unary {operator : Token} (inner : nested.Complete bound)
    (unary : isUnaryOperator operator.kind) (operand : IsSimple tokens) :
    Accepts (bound + 1) (simpleExpr nested) (operator :: tokens) endsSimple := by
  apply parses_kindAhead_bind
  intro kind ahead
  rw [Ahead] at ahead
  rw [← ahead] at unary
  unfold isUnaryOperator at unary
  split at unary
  · exact unary_accepts inner operand
  · exact minus_accepts inner operand
  · exact unary_accepts inner operand
  · exact unary_accepts inner operand
  · exact unary_accepts inner operand
  · exact absurd unary Bool.false_ne_true

theorem simpleExpr_accepts (inner : nested.Complete bound) (simple : IsSimple tokens) :
    Accepts (bound + 1) (simpleExpr nested) tokens endsSimple := by
  obtain ⟨node, derived⟩ := simple
  cases derived with
  | existence word query =>
      apply parses_kindAhead_bind
      intro kind ahead
      rw [ahead, word]
      exact existence_accepts inner query
  | bareSubquery query =>
      have whole := query
      cases query with
      | subquery opening select closing =>
          apply parses_kindAhead_bind
          intro kind ahead
          rw [ahead, opening]
          exact parenthesis_subquery inner whole
  | marker question =>
      apply parses_kindAhead_bind
      intro kind ahead
      rw [ahead, question]
      exact marker_accepts
  | literal literal => exact simpleExpr_of_literal inner literal
  | aggregationCall call =>
      cases call with
      | aggregation named opening distinct arguments closing =>
          simp only [List.append_assoc, List.cons_append]
          apply simpleExpr_of_name (isName_of_namesAggregate named)
          exact aggregate_accepts inner named opening distinct (.of_aggregate arguments) closing
  | specialCall call => exact simpleExpr_of_special inner call
  | regularCall call =>
      cases call with
      | regular named opening arguments closing =>
          apply simpleExpr_of_name named
          exact call_accepts inner named opening (.of_regular arguments) closing
  | column name =>
      obtain ⟨first, rest, rfl⟩ := List.exists_cons_of_ne_nil name.nonempty
      exact simpleExpr_of_name name.isName (column_accepts name)
  | unary operator operand => exact simpleExpr_of_unary inner operator ⟨_, operand⟩
  | row opening items closing =>
      apply parses_kindAhead_bind
      intro kind ahead
      rw [ahead, opening]
      exact parenthesis_row inner items closing
  | caseOf word operand branches nonempty otherwise closing =>
      simp only [List.append_assoc, List.cons_append]
      apply parses_kindAhead_bind
      intro kind ahead
      rw [ahead, word]
      exact caseExpr_accepts inner operand branches nonempty otherwise closing

end AnnotatedSql.Grammar.Parse
