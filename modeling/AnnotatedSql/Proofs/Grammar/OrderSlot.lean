/-
This file shows that which slot of an order item is filled can be told from the tokens of the item,
those of its direction left out.
-/

import AnnotatedSql.Proofs.Grammar.Choice
import AnnotatedSql.Proofs.Grammar.Stretch

namespace AnnotatedSql.Grammar

variable {quantifiable : TokenKind → Bool} {tokens others : List Token} {token closing : Token}

/-! ### Directions -/

/-- The words for a direction. -/
def isDirection : TokenKind → Bool
  | .keyword .ASC | .keyword .DESC => true
  | _ => false

/-- The tokens without a direction at their end. -/
def withoutDirection (tokens : List Token) : List Token :=
  match tokens.getLast? with
  | some last => if isDirection last.kind then tokens.dropLast else tokens
  | none => tokens

/-- The tokens do not end with a direction. -/
def Undirected (tokens : List Token) : Prop :=
  ∀ last ∈ tokens.getLast?, isDirection last.kind = false

theorem undirected_nil : Undirected [] := by simp [Undirected]

theorem undirected_concat (other : isDirection token.kind = false) :
    Undirected (tokens ++ [token]) := by
  intro last found
  rw [List.getLast?_concat] at found
  obtain rfl := Option.some.inj found
  exact other

theorem undirected_single (other : isDirection token.kind = false) : Undirected [token] := by
  have concat : Undirected ([] ++ [token]) := undirected_concat other
  exact concat

theorem undirected_closing (found : closing.kind = .symbol .rightParen) :
    Undirected (tokens ++ [closing]) := undirected_concat (by rw [found]; rfl)

theorem Undirected.append (first : Undirected tokens) (second : Undirected others) :
    Undirected (tokens ++ others) := by
  intro last found
  rw [List.getLast?_append] at found
  cases behind : others.getLast? with
  | none =>
      rw [behind, Option.none_or] at found
      exact first last found
  | some final =>
      rw [behind, Option.some_or] at found
      obtain rfl := Option.some.inj found
      exact second final behind

/-- Only what comes last counts. -/
theorem Undirected.behind (undirected : Undirected others) (nonempty : others ≠ []) :
    Undirected (tokens ++ others) := by
  intro last found
  rw [List.getLast?_append_of_ne_nil _ nonempty] at found
  exact undirected last found

theorem Undirected.cons (undirected : Undirected tokens) (nonempty : tokens ≠ []) :
    Undirected (token :: tokens) := by
  have behind : Undirected ([token] ++ tokens) := undirected.behind nonempty
  exact behind

theorem isDirection_of_isName {kind : TokenKind} (name : kind.isName) :
    isDirection kind = false := by
  unfold isDirection
  split <;> first | rfl | exact absurd name Bool.false_ne_true

theorem isDirection_of_isTruthValue {kind : TokenKind} (value : isTruthValue kind) :
    isDirection kind = false := by
  unfold isDirection
  split <;> first | rfl | exact absurd value Bool.false_ne_true

theorem QualifiedName.Derives.undirected {name : QualifiedName} (derived : name.Derives tokens) :
    Undirected tokens := by
  cases derived with
  | plain named => exact undirected_single (isDirection_of_isName named)
  | owned _ _ named =>
      have last := undirected_single (isDirection_of_isName named)
      exact (last.cons (List.cons_ne_nil _ _)).cons (List.cons_ne_nil _ _)

theorem Literal.Derives.undirected {literal : Literal} (derived : literal.Derives tokens) :
    Undirected tokens := by
  cases derived with
  | string found | number found | hexadecimal found | bitValue found | null found =>
      exact undirected_single (by rw [found]; rfl)
  | boolean found =>
      rcases found with found | found
      · exact undirected_single (by rw [found]; rfl)
      · exact undirected_single (by rw [found]; rfl)
  | negativeNumber _ found =>
      exact (undirected_single (by rw [found]; rfl)).cons (List.cons_ne_nil _ _)

/-- Expressions and what they end with. -/
def Node.isOperand : Node → Bool
  | .expr _ | .primary _ | .predicate _ | .bitExpr _ | .simpleExpr _ | .escape _ | .aggregation _
  | .special _ | .regular _ | .subquery _ => true
  | _ => false

/-- No expression ends with a direction. -/
theorem Derives.undirected {node : Node} (derived : Derives quantifiable node tokens)
    (operand : node.isOperand) : Undirected tokens := by
  induction derived with
  | logical _ _ derived _ right | xor _ _ derived _ right | comparison _ _ derived _ right
  | binary _ _ derived _ right =>
      exact ((right rfl).cons (derived.nonempty rfl)).behind (List.cons_ne_nil _ _)
  | negation _ derived inner | existence _ derived inner | unary _ derived inner
  | escape _ derived inner => exact (inner rfl).cons (derived.nonempty rfl)
  | primary _ inner | predicate _ inner | bitExpr _ inner | simple _ inner | bareSubquery _ inner
  | aggregationCall _ inner | specialCall _ inner | regularCall _ inner => exact inner rfl
  | isTest _ _ _ value => exact undirected_concat (isDirection_of_isTruthValue value)
  | quantified _ _ _ derived _ query =>
      exact (((query rfl).cons (derived.nonempty rfl)).cons (List.cons_ne_nil _ _)).behind
        (List.cons_ne_nil _ _)
  | inSubquery _ _ _ derived _ query =>
      exact ((query rfl).cons (derived.nonempty rfl)).behind (List.cons_ne_nil _ _)
  | between _ _ _ _ _ derived _ _ upper =>
      exact ((upper rfl).cons (derived.nonempty rfl)).behind (List.cons_ne_nil _ _)
  | like _ _ _ derived _ _ pattern escape =>
      rw [List.append_assoc]
      have nonempty := List.append_ne_nil_of_left_ne_nil (derived.nonempty rfl)
      exact (((pattern rfl).append (escape rfl)).cons (nonempty _)).behind (List.cons_ne_nil _ _)
  | noEscape => exact undirected_nil
  | marker found => exact undirected_single (by rw [found]; rfl)
  | literal derived => exact derived.undirected
  | column derived => exact derived.undirected
  | caseOf _ _ _ _ _ closing => exact undirected_concat (by rw [closing]; rfl)
  | paren _ _ closing | inList _ _ _ _ _ closing | row _ _ closing | aggregation _ _ _ _ closing
  | cast _ _ _ _ _ closing | substring _ _ _ _ _ _ closing | extract _ _ _ _ _ closing
  | trim _ _ _ _ _ closing | regular _ _ _ closing | subquery _ _ closing =>
      exact undirected_closing closing
  | _ => cases operand

/-! ### Slots -/

/-- The slots of an order item for what it orders by. -/
inductive OrderSlot
  | column
  | number
  | expression
deriving DecidableEq, Repr

/-- A number stands in the slot of a number, a name or `owner.name` in that of a column, and anything
else in that of an expression. -/
def OrderSlot.ofTokens : List Token → OrderSlot
  | [token] =>
      if token.kind = .number then .number
      else if token.kind.isName then .column else .expression
  | [owner, dot, name] =>
      if owner.kind.isName ∧ dot.kind = .symbol .dot ∧ name.kind.isName then .column
      else .expression
  | _ => .expression

/-- The slots of the item that are filled. -/
def OrderItem.filled (item : OrderItem) : List OrderSlot :=
  (item.column.map fun _ => OrderSlot.column).toList ++
    (item.number.map fun _ => OrderSlot.number).toList ++
      (item.expr.map fun _ => OrderSlot.expression).toList

/-- A simple expression by itself. -/
def Expr.ofSimple (operand : SimpleExpr) : Expr := .primary (.predicate (.bitExpr (.simple operand)))

theorem Derives.of_simple {operand : SimpleExpr}
    (derived : Derives quantifiable (.expr (Expr.ofSimple operand)) tokens) :
    Derives quantifiable (.simpleExpr operand) tokens := by
  cases derived with
  | primary derived =>
  cases derived with
  | predicate derived =>
  cases derived with
  | bitExpr derived =>
  cases derived with
  | simple derived => exact derived

theorem OrderSlot.ofTokens_expression (unnumbered : ∀ token, tokens = [token] → token.kind ≠ .number)
    (unnamed : ∀ name : QualifiedName, ¬ name.Derives tokens) :
    OrderSlot.ofTokens tokens = .expression := by
  unfold ofTokens
  split
  case h_1 token =>
    rw [if_neg (unnumbered token rfl), if_neg fun name => unnamed _ (.plain name)]
  case h_2 owner dot name =>
    rw [if_neg fun named => unnamed _ (.owned named.1 named.2.1 named.2.2)]
  case h_3 => rfl

namespace OrderItem.Slots

variable {column : Option QualifiedName} {number : Option Span} {expr : Option Expr}
  {ascending descending : Option Span}

/-- The slot that is filled is the one for the tokens. -/
theorem filled (slots : Slots column number expr tokens) (span : Span) :
    OrderItem.filled ⟨span, column, number, expr, ascending, descending⟩ =
      [OrderSlot.ofTokens tokens] := by
  cases slots with
  | column derived =>
      cases derived with
      | @plain token name =>
          have unnumbered : token.kind ≠ .number := by
            intro number
            rw [number] at name
            exact Bool.false_ne_true name
          rw [OrderSlot.ofTokens, if_neg unnumbered, if_pos name]
          rfl
      | owned owner dot name =>
          rw [OrderSlot.ofTokens, if_pos ⟨owner, dot, name⟩]
          rfl
  | number found =>
      rw [OrderSlot.ofTokens, if_pos found]
      rfl
  | expr derived unnumbered unnamed =>
      rw [OrderSlot.ofTokens_expression unnumbered unnamed]
      rfl

theorem undirected (slots : Slots column number expr tokens) : Undirected tokens := by
  cases slots with
  | column derived => exact derived.undirected
  | number found => exact undirected_single (by rw [found]; rfl)
  | expr derived => exact derived.undirected rfl

/-- No column stands in the slot of an expression, and a number only with a sign. -/
theorem of_simple {operand : SimpleExpr}
    (slots : Slots column number (some (Expr.ofSimple operand)) tokens) :
    (∀ name, operand ≠ .column name) ∧
      ∀ literal, operand = .literal literal → literal.number.isSome →
        ∃ sign value, tokens = [sign, value] ∧ sign.kind = .symbol .minus ∧
          value.kind = .number := by
  cases slots with
  | expr derived unnumbered unnamed =>
      have derived := derived.of_simple
      constructor
      · rintro name rfl
        cases derived with
        | column named => exact unnamed name named
      · rintro literal rfl numbered
        cases derived with
        | literal derived =>
            cases derived with
            | number found => exact absurd found (unnumbered _ rfl)
            | negativeNumber sign found => exact ⟨_, _, rfl, sign, found⟩
            | _ => cases numbered

end OrderItem.Slots

/-- What is left without the direction are the other tokens. -/
theorem DirectionWord.without {ascending descending : Option Span} {words : List Token}
    (direction : DirectionWord ascending descending words) (undirected : Undirected tokens) :
    withoutDirection (tokens ++ words) = tokens := by
  cases direction with
  | absent =>
      rw [List.append_nil, withoutDirection]
      split
      next last found => rw [undirected last found, if_neg Bool.false_ne_true]
      next => rfl
  | ascending word | descending word =>
      rw [withoutDirection, List.getLast?_concat]
      dsimp only
      rw [word, List.dropLast_concat]
      rfl

/-- In the tree of a text, one slot of each order item is filled, in ORDER BY and in GROUP BY, and
it can be told from the tokens of the item without its direction: that of a number for a number
token alone, that of a column for a name or `owner.name`, and otherwise that of an expression, which
holds no column by itself and no number without a sign. There is at most one direction. -/
theorem order_slot_by_tokens (source : Text) (tree : Select) (parsed : parse source = .ok tree)
    (item : OrderItem) (within : (TreeNode.select tree).Has (.orderItem item)) :
    let tokens := withoutDirection (tokensUnder source item.span)
    item.filled = [OrderSlot.ofTokens tokens] ∧
      (∀ operand, item.expr = some (Expr.ofSimple operand) →
        (∀ name, operand ≠ .column name) ∧
          ∀ literal, operand = .literal literal → literal.number.isSome →
            ∃ sign value, tokens = [sign, value] ∧ sign.kind = .symbol .minus ∧
              value.kind = .number) ∧
      (item.ascending = none ∨ item.descending = none) := by
  intro tokens
  obtain ⟨slots, direction, infixed⟩ : item.Chosen _ := parse_chosen parsed within
  have laid := (laid_ofTokens source).fewer infixed.sublist
  have nonempty := List.append_ne_nil_of_left_ne_nil slots.nonempty
  have dropped := (List.dropLast_prefix (tokenize source)).isInfix
  have under := tokensUnder_cover laid (nonempty _) (infixed.trans dropped)
  have same : tokens = _ := (congrArg withoutDirection under).trans
    (direction.without slots.undirected)
  rw [same]
  refine ⟨slots.filled _, ?_, ?_⟩
  · rintro operand ⟨⟩
    exact slots.of_simple
  · cases direction with
    | absent | descending => exact .inl rfl
    | ascending => exact .inr rfl

/-- An unreserved keyword behind an owner, with a direction. -/
theorem order_slot_by_tokens_keyword :
    ∃ tree item, parse "SELECT a FROM t GROUP BY 1, t.MAX DESC".toList = .ok tree ∧
      (TreeNode.select tree).Has (.orderItem item) ∧ item.span = ⟨28, 37⟩ ∧
      item.filled = [.column] := by
  have grouped : ((parse "SELECT a FROM t GROUP BY 1, t.MAX DESC".toList).toOption.bind
      Select.grouping).map (fun clause => clause.items.map OrderItem.span) =
        some [⟨25, 25⟩, ⟨28, 37⟩] := by decide +kernel
  have slot : OrderSlot.ofTokens (withoutDirection
      (tokensUnder "SELECT a FROM t GROUP BY 1, t.MAX DESC".toList ⟨28, 37⟩)) = .column := by
    decide +kernel
  rcases parsed : parse "SELECT a FROM t GROUP BY 1, t.MAX DESC".toList with error | tree
  · rw [parsed] at grouped
    cases grouped
  · rw [parsed] at grouped
    obtain ⟨clause, grouping, spans⟩ := Option.map_eq_some_iff.mp grouped
    change tree.grouping = some clause at grouping
    have listed : (⟨28, 37⟩ : Span) ∈ clause.items.map OrderItem.span := by simp [spans]
    obtain ⟨item, member, span⟩ := List.mem_map.mp listed
    have isClause : TreeNode.orderClause clause ∈ (TreeNode.select tree).children := by
      simp [TreeNode.children, grouping]
    have within : (TreeNode.select tree).Has (.orderItem item) :=
      .tail (.single isClause) (List.mem_map_of_mem member)
    obtain ⟨filled, _, _⟩ := order_slot_by_tokens _ tree parsed item within
    rw [span, slot] at filled
    exact ⟨tree, item, rfl, within, span, filled⟩

end AnnotatedSql.Grammar
