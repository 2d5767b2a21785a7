/-
This file finds the simple expression at the left end of a phrase, and says how its first token
decides what it is.
-/

import AnnotatedSql.Proofs.Grammar.Completeness.Shape

namespace AnnotatedSql.Grammar

open Precedence

variable {first left tokens rest : List Token} {token : Token}

/-! ### The left end -/

/-- The phrase starts with a simple expression, which may be replaced by another one; what follows
it extends an operand. -/
def HasCorner (phrase : List Token → Prop) (tokens : List Token) : Prop :=
  ∃ corner more, IsSimple corner ∧ tokens = corner ++ more ∧
    (∀ next ∈ more.head?, continuesOperand next.kind) ∧
    ∀ other, IsSimple other → phrase (other ++ more)

theorem HasCorner.extend {phrase longer : List Token → Prop} (corner : HasCorner phrase first)
    (continues : ∀ next ∈ left.head?, continuesOperand next.kind)
    (build : ∀ other, phrase other → longer (other ++ left)) :
    HasCorner longer (first ++ left) := by
  obtain ⟨simple, more, found, rfl, head, replace⟩ := corner
  refine ⟨simple, more ++ left, found, List.append_assoc .., ?_, ?_⟩
  · intro next member
    cases more with
    | nil => exact continues next member
    | cons => exact head next member
  · intro other isSimple
    rw [← List.append_assoc]
    exact build _ (replace other isSimple)

theorem bits_corner (joined : Joined IsSimple bit? tokens) :
    HasCorner (Joined IsSimple bit?) tokens := by
  obtain ⟨simple, minimum, more, found, rest, rfl⟩ := joined.split
  refine ⟨simple, more, found, rfl, ?_, fun other isSimple => rest.joined isSimple⟩
  intro next member
  cases rest with
  | nothing => simp at member
  | further level _ _ =>
      obtain rfl := Option.some.inj member
      simp [continuesOperand, level]

theorem PredicateTail.continues (tail : PredicateTail left) :
    ∀ next ∈ left.head?, continuesOperand next.kind := by
  intro next member
  cases tail with
  | nothing => simp at member
  | test flag test =>
      cases flag with
      | present word =>
          obtain rfl := Option.some.inj member
          simp [continuesOperand, word]
      | absent => cases test <;> simp_all [continuesOperand]

theorem predicate_corner (predicate : IsPredicate tokens) : HasCorner IsPredicate tokens := by
  obtain ⟨first, left, joined, tail, rfl⟩ := predicate_split predicate
  exact (bits_corner joined).extend tail.continues fun _ bits => tail.predicate bits

theorem Suffixes.continues (suffixes : Suffixes left) :
    ∀ next ∈ left.head?, continuesOperand next.kind := by
  intro next member
  cases suffixes with
  | nil => simp at member
  | cons suffix _ => cases suffix <;> simp_all [continuesOperand]

theorem primary_corner (primary : IsPrimary tokens) : HasCorner IsPrimary tokens := by
  obtain ⟨node, derived⟩ := primary
  obtain ⟨first, left, predicate, suffixes, rfl⟩ := primary_split derived
  refine (predicate_corner predicate).extend suffixes.continues ?_
  intro other isPredicate
  obtain ⟨node, derived⟩ := isPredicate
  exact suffixes.primary ⟨_, .predicate derived⟩

/-! ### Simple expressions by their first token -/

/-- The kinds of tokens that are neither names nor negations nor parentheses. -/
def isOtherStart (kind : TokenKind) : Bool :=
  !kind.isName && !isNegation kind && kind != .symbol .leftParen

/-- What stands behind the first token of a simple expression. -/
inductive Beginning (token : Token) : List Token → Prop
  | unary {rest : List Token} : isUnaryOperator token.kind → IsSimple rest → Beginning token rest
  | subquery {word : Token} {rest : List Token} :
      token.kind = .symbol .leftParen → word.kind = .keyword .SELECT →
      Beginning token (word :: rest)
  | row {items : List Expr} {tokens : List Token} {closing : Token} :
      token.kind = .symbol .leftParen → DerivesWidely (.exprs items) tokens →
      closing.kind = .symbol .rightParen → Beginning token (tokens ++ [closing])
  | call {opening : Token} {rest : List Token} :
      token.kind.isName → opening.kind = .symbol .leftParen → Beginning token (opening :: rest)
  | column {name : QualifiedName} {rest : List Token} :
      QualifiedName.Derives name (token :: rest) → Beginning token rest
  | other {rest : List Token} :
      isOtherStart token.kind → (token.kind = .number → rest = []) → Beginning token rest

theorem simple_beginning (simple : IsSimple (token :: rest)) : Beginning token rest := by
  obtain ⟨node, derived⟩ := simple
  generalize whole : token :: rest = tokens at derived
  cases derived with
  | existence word _ =>
      obtain ⟨rfl, rfl⟩ := List.cons.inj whole
      exact .other (by rw [word]; rfl) fun number => absurd (word.symm.trans number) (by decide)
  | bareSubquery query =>
      cases query with
      | subquery opening select closing =>
          cases select with
          | select word _ _ _ _ _ _ _ =>
              simp only [List.append_assoc, List.cons_append, List.cons.injEq] at whole
              obtain ⟨rfl, rfl⟩ := whole
              exact .subquery opening word
  | marker question =>
      obtain ⟨rfl, rfl⟩ := List.cons.inj whole
      exact .other (by rw [question]; rfl) fun _ => rfl
  | literal literal =>
      cases literal with
      | boolean word =>
          obtain ⟨rfl, rfl⟩ := List.cons.inj whole
          rcases word with word | word <;> exact .other (by rw [word]; rfl) fun _ => rfl
      | negativeNumber sign _ =>
          obtain ⟨rfl, rfl⟩ := List.cons.inj whole
          exact .other (by rw [sign]; rfl) fun number => absurd (sign.symm.trans number) (by decide)
      | _ found =>
          obtain ⟨rfl, rfl⟩ := List.cons.inj whole
          exact .other (by rw [found]; rfl) fun _ => rfl
  | aggregationCall call =>
      cases call with
      | aggregation name opening _ _ _ =>
          simp only [List.append_assoc, List.cons_append, List.cons.injEq] at whole
          obtain ⟨rfl, rfl⟩ := whole
          exact .call (isName_of_namesAggregate name) opening
  | specialCall call =>
      cases call with
      | cast word | substring word | extract word | trim word =>
          simp only [List.append_assoc, List.cons_append, List.cons.injEq] at whole
          obtain ⟨rfl, rfl⟩ := whole
          exact .other (by rw [word]; rfl) fun number => absurd (word.symm.trans number) (by decide)
  | regularCall call =>
      cases call with
      | regular name opening _ _ =>
          simp only [List.cons_append, List.cons.injEq] at whole
          obtain ⟨rfl, rfl⟩ := whole
          exact .call name opening
  | column name =>
      subst whole
      exact .column name
  | unary operator operand =>
      obtain ⟨rfl, rfl⟩ := List.cons.inj whole
      exact .unary operator ⟨_, operand⟩
  | row opening items closing =>
      obtain ⟨rfl, rfl⟩ := List.cons.inj whole
      exact .row opening items closing
  | caseOf word _ _ _ _ _ =>
      simp only [List.append_assoc, List.cons_append, List.cons.injEq] at whole
      obtain ⟨rfl, rfl⟩ := whole
      exact .other (by rw [word]; rfl) fun number => absurd (word.symm.trans number) (by decide)

theorem QualifiedName.Derives.isName {name : QualifiedName}
    (derived : name.Derives (token :: rest)) : token.kind.isName := by
  cases derived with
  | plain found => exact found
  | owned owner _ _ => exact owner

theorem isName_of_isNegation {kind : TokenKind} (negation : isNegation kind) :
    kind.isName = false := by
  unfold isNegation at negation
  split at negation <;> first | rfl | exact absurd negation Bool.false_ne_true

/-- Behind a negation stands its operand. -/
theorem simple_of_negation (simple : IsSimple (token :: rest)) (negation : isNegation token.kind) :
    IsSimple rest := by
  have unnamed := isName_of_isNegation negation
  cases simple_beginning simple with
  | unary _ operand => exact operand
  | subquery opening | row opening => simp [opening, isNegation] at negation
  | call name => simp [unnamed] at name
  | column name =>
      have named := name.isName
      simp [unnamed] at named
  | other other => simp [isOtherStart, negation] at other

/-- Behind an opening parenthesis stands SELECT or a list of expressions. -/
theorem simple_of_paren (simple : IsSimple (token :: rest))
    (paren : token.kind = .symbol .leftParen) :
    (∃ word others, rest = word :: others ∧ word.kind = .keyword .SELECT) ∨
      ∃ items inner closing, rest = inner ++ [closing] ∧ DerivesWidely (.exprs items) inner ∧
        closing.kind = .symbol .rightParen := by
  cases simple_beginning simple with
  | unary operator => simp [paren, isUnaryOperator] at operator
  | subquery _ word => exact .inl ⟨_, _, rfl, word⟩
  | row _ items closing => exact .inr ⟨_, _, _, rfl, items, closing⟩
  | call name => simp [paren, TokenKind.isName] at name
  | column name =>
      have name := name.isName
      simp [paren, TokenKind.isName] at name
  | other other => simp [isOtherStart, paren] at other

/-- A name is that of a column, or an opening parenthesis follows it. -/
theorem simple_of_name (simple : IsSimple (token :: rest)) (name : token.kind.isName) :
    (∃ column : QualifiedName, column.Derives (token :: rest)) ∨
      ∃ opening others, rest = opening :: others ∧ opening.kind = .symbol .leftParen := by
  cases simple_beginning simple with
  | unary operator =>
      unfold isUnaryOperator at operator
      split at operator <;> simp_all [TokenKind.isName, Keyword.isUnreserved]
  | subquery opening | row opening => simp [opening, TokenKind.isName] at name
  | call _ opening => exact .inr ⟨_, _, rfl, opening⟩
  | column column => exact .inl ⟨_, column⟩
  | other other => simp [isOtherStart, name] at other

/-- A number stands for itself. -/
theorem simple_of_number (simple : IsSimple (token :: rest)) (number : token.kind = .number) :
    rest = [] := by
  cases simple_beginning simple with
  | unary operator => simp [number, isUnaryOperator] at operator
  | subquery opening | row opening => simp [number] at opening
  | call name => simp [number, TokenKind.isName] at name
  | column name =>
      have name := name.isName
      simp [number, TokenKind.isName] at name
  | other _ alone => exact alone number

theorem IsSimple.nonempty (simple : IsSimple tokens) : tokens ≠ [] := by
  obtain ⟨node, derived⟩ := simple
  exact derived.nonempty rfl

/-! ### Primaries by their first token -/

theorem primary_of_negation (primary : IsPrimary (token :: rest))
    (negation : isNegation token.kind) : IsPrimary rest := by
  obtain ⟨corner, more, simple, whole, _, replace⟩ := primary_corner primary
  obtain ⟨first, corner, rfl⟩ := List.exists_cons_of_ne_nil simple.nonempty
  obtain ⟨rfl, rfl⟩ := List.cons.inj whole
  exact replace corner (simple_of_negation simple negation)

theorem primary_of_paren (primary : IsPrimary (token :: rest))
    (paren : token.kind = .symbol .leftParen) :
    (∃ word others, rest = word :: others ∧ word.kind = .keyword .SELECT) ∨
      ∃ items inner closing more, rest = inner ++ closing :: more ∧
        DerivesWidely (.exprs items) inner ∧ closing.kind = .symbol .rightParen ∧
        ∀ next ∈ more.head?, continuesOperand next.kind := by
  obtain ⟨corner, more, simple, whole, continues, _⟩ := primary_corner primary
  obtain ⟨first, corner, rfl⟩ := List.exists_cons_of_ne_nil simple.nonempty
  obtain ⟨rfl, rfl⟩ := List.cons.inj whole
  rcases simple_of_paren simple paren with ⟨word, others, rfl, select⟩ | found
  · exact .inl ⟨word, others ++ more, rfl, select⟩
  · obtain ⟨items, inner, closing, rfl, derived, closes⟩ := found
    exact .inr ⟨items, inner, closing, more, List.append_assoc inner [closing] more, derived,
      closes, continues⟩

theorem primary_of_name (primary : IsPrimary (token :: rest)) (name : token.kind.isName) :
    (∃ (column : QualifiedName) (corner more : List Token),
      token :: rest = corner ++ more ∧ column.Derives corner ∧
        ∀ next ∈ more.head?, continuesOperand next.kind) ∨
      ∃ opening others, rest = opening :: others ∧ opening.kind = .symbol .leftParen := by
  obtain ⟨corner, more, simple, whole, continues, _⟩ := primary_corner primary
  obtain ⟨first, corner, rfl⟩ := List.exists_cons_of_ne_nil simple.nonempty
  obtain ⟨rfl, rfl⟩ := List.cons.inj whole
  rcases simple_of_name simple name with ⟨column, derived⟩ | ⟨opening, others, rfl, paren⟩
  · exact .inl ⟨column, _, more, rfl, derived, continues⟩
  · exact .inr ⟨opening, others ++ more, rfl, paren⟩

/-! ### Operands of the connectives -/

/-- A negation of an operand, an expression in parentheses or a primary. -/
inductive Operand : List Token → Prop
  | negation {operator : Token} {tokens : List Token} :
      isNegation operator.kind → Operand tokens → Operand (operator :: tokens)
  | paren {inner : Expr} {opening closing : Token} {tokens : List Token} :
      opening.kind = .symbol .leftParen → DerivesWidely (.expr inner) tokens →
      closing.kind = .symbol .rightParen → Operand (opening :: (tokens ++ [closing]))
  | primary {tokens : List Token} : IsPrimary tokens → Operand tokens

/-- Operands with connectives between them. -/
abbrev Chain : List Token → Prop := Joined Operand logical?

theorem Chain.negation {operator : Token} (chain : Chain tokens)
    (negation : isNegation operator.kind) : Chain (operator :: tokens) := by
  obtain ⟨first, minimum, left, operand, rest, rfl⟩ := Joined.split chain
  exact rest.joined (.negation negation operand)

theorem expr_chain {node : Expr} {tokens : List Token} :
    DerivesWidely (.expr node) tokens → Chain tokens
  | .logical left operator right =>
      (expr_chain left).append (by rw [logical_isSome, operator, Bool.true_or]) (expr_chain right)
  | .xor left operator right => (expr_chain left).append (by rw [operator]; rfl) (expr_chain right)
  | .negation operator operand => (expr_chain operand).negation operator
  | .paren opening inner closing => .single (.paren opening inner closing)
  | .primary primary => .single (.primary ⟨_, primary⟩)

theorem Operand.nonempty (operand : Operand tokens) : tokens ≠ [] := by
  cases operand with
  | negation | paren => exact List.cons_ne_nil _ _
  | primary primary =>
      obtain ⟨node, derived⟩ := primary
      exact derived.nonempty rfl

theorem Operand.of_negation (operand : Operand (token :: rest)) (negation : isNegation token.kind) :
    Operand rest := by
  generalize whole : token :: rest = tokens at operand
  cases operand with
  | negation _ inner =>
      obtain ⟨rfl, rfl⟩ := List.cons.inj whole
      exact inner
  | paren opening =>
      obtain ⟨rfl, rfl⟩ := List.cons.inj whole
      simp [opening, isNegation] at negation
  | primary primary =>
      subst whole
      exact .primary (primary_of_negation primary negation)

/-- An operand that starts neither with a negation nor with a parenthesis is a primary. -/
theorem Operand.primary_of_other (operand : Operand (token :: rest))
    (negation : isNegation token.kind = false) (paren : token.kind ≠ .symbol .leftParen) :
    IsPrimary (token :: rest) := by
  generalize whole : token :: rest = tokens at operand
  cases operand with
  | negation found =>
      obtain ⟨rfl, rfl⟩ := List.cons.inj whole
      simp [negation] at found
  | paren opening =>
      obtain ⟨rfl, rfl⟩ := List.cons.inj whole
      exact absurd opening paren
  | primary primary => exact primary

/-- What an opening parenthesis starts: a whole operand, or a primary that is no expression in
parentheses because SELECT comes next, or because a comma or an operator follows the first
expression. -/
inductive Opened (opening : Token) : List Token → Prop
  | whole {inner : List Token} {closing : Token} :
      IsExpr inner → closing.kind = .symbol .rightParen → Opened opening (inner ++ [closing])
  | query {word : Token} {others : List Token} :
      word.kind = .keyword .SELECT → IsPrimary (opening :: word :: others) →
      Opened opening (word :: others)
  | list {inner : List Token} {comma : Token} {others : List Token} :
      IsExpr inner → comma.kind = .symbol .comma →
      IsPrimary (opening :: (inner ++ comma :: others)) → Opened opening (inner ++ comma :: others)
  | continued {inner : List Token} {closing next : Token} {others : List Token} :
      IsExpr inner → closing.kind = .symbol .rightParen → continuesOperand next.kind →
      IsPrimary (opening :: (inner ++ closing :: next :: others)) →
      Opened opening (inner ++ closing :: next :: others)

theorem opened_of_primary (primary : IsPrimary (token :: rest))
    (paren : token.kind = .symbol .leftParen) : Opened token rest := by
  rcases primary_of_paren primary paren with ⟨word, others, rfl, select⟩ | found
  · exact .query select primary
  · obtain ⟨items, inner, closing, more, rfl, derived, closes, continues⟩ := found
    cases derived with
    | singleExpr inner =>
        cases more with
        | nil => exact .whole ⟨_, inner⟩ closes
        | cons next others => exact .continued ⟨_, inner⟩ closes (continues next rfl) primary
    | furtherExpr inner comma others =>
        rw [List.append_assoc] at primary ⊢
        exact .list ⟨_, inner⟩ comma primary

theorem Operand.opened (operand : Operand (token :: rest))
    (paren : token.kind = .symbol .leftParen) : Opened token rest := by
  generalize whole : token :: rest = tokens at operand
  cases operand with
  | negation found =>
      obtain ⟨rfl, rfl⟩ := List.cons.inj whole
      simp [paren, isNegation] at found
  | paren _ inner closing =>
      obtain ⟨rfl, rfl⟩ := List.cons.inj whole
      exact .whole ⟨_, inner⟩ closing
  | primary primary =>
      subst whole
      exact opened_of_primary primary paren

/-! ### Expressions by their first token -/

/-- Tokens that extend an expression behind an operand or a part of one. -/
def extendsExpr (kind : TokenKind) : Bool := continuesOperand kind || (logical? kind).isSome

theorem expr_primary (expr : IsExpr (token :: rest)) (negation : isNegation token.kind = false)
    (paren : token.kind ≠ .symbol .leftParen) :
    ∃ more left, rest = more ++ left ∧ IsPrimary (token :: more) ∧
      ∀ next ∈ left.head?, extendsExpr next.kind := by
  obtain ⟨node, derived⟩ := expr
  obtain ⟨first, minimum, left, operand, behind, whole⟩ := (expr_chain derived).split
  obtain ⟨first, more, rfl⟩ := List.exists_cons_of_ne_nil operand.nonempty
  obtain ⟨rfl, rfl⟩ := List.cons.inj whole
  refine ⟨more, left, rfl, operand.primary_of_other negation paren, ?_⟩
  intro next member
  cases behind with
  | nothing => simp at member
  | further level _ _ =>
      obtain rfl := Option.some.inj member
      simp [extendsExpr, level]

theorem extends_append (continues : ∀ next ∈ left.head?, continuesOperand next.kind)
    (further : ∀ next ∈ rest.head?, extendsExpr next.kind) :
    ∀ next ∈ (left ++ rest).head?, extendsExpr next.kind := by
  intro next member
  cases left with
  | nil => exact further next member
  | cons first left => simp [extendsExpr, continues next member]

/-- A name is that of a column, which an operator may follow, or an opening parenthesis follows. -/
theorem expr_of_name (expr : IsExpr (token :: rest)) (name : token.kind.isName) :
    (∃ (column : QualifiedName) (corner tail : List Token),
      token :: rest = corner ++ tail ∧ column.Derives corner ∧
        ∀ next ∈ tail.head?, extendsExpr next.kind) ∨
      ∃ opening others, rest = opening :: others ∧ opening.kind = .symbol .leftParen := by
  have negation : isNegation token.kind = false := by
    cases negates : isNegation token.kind with
    | false => rfl
    | true => simp [isName_of_isNegation negates] at name
  have paren : token.kind ≠ .symbol .leftParen := by
    intro opens
    simp [opens, TokenKind.isName] at name
  obtain ⟨more, left, rfl, primary, further⟩ := expr_primary expr negation paren
  rcases primary_of_name primary name with ⟨column, corner, tail, whole, derived, continues⟩ | found
  · refine .inl ⟨column, corner, tail ++ left, ?_, derived, extends_append continues further⟩
    rw [← List.cons_append, whole, List.append_assoc]
  · obtain ⟨opening, others, rfl, opens⟩ := found
    exact .inr ⟨opening, others ++ left, rfl, opens⟩

/-- An operator may follow a number. -/
theorem expr_of_number (expr : IsExpr (token :: rest)) (number : token.kind = .number) :
    ∀ next ∈ rest.head?, extendsExpr next.kind := by
  have negation : isNegation token.kind = false := by rw [number]; rfl
  obtain ⟨more, left, rfl, primary, further⟩ :=
    expr_primary expr negation (by rw [number]; decide)
  obtain ⟨corner, tail, simple, whole, continues, _⟩ := primary_corner primary
  obtain ⟨first, corner, rfl⟩ := List.exists_cons_of_ne_nil simple.nonempty
  obtain ⟨rfl, rfl⟩ := List.cons.inj whole
  obtain rfl := simple_of_number simple number
  exact extends_append continues further

end AnnotatedSql.Grammar
