/-
This file shows that moving a tree twice is moving it once, and that a tree whose offsets stay is the
same tree.
-/

import AnnotatedSql.Proofs.Grammar.Locality.Relocation

namespace AnnotatedSql

@[simp] theorem Span.relocate_relocate (move further : Nat → Nat) (span : Span) :
    (span.relocate move).relocate further = span.relocate (further ∘ move) := rfl

@[simp] theorem Span.relocate_comp (move further : Nat → Nat) :
    Span.relocate further ∘ Span.relocate move = Span.relocate (further ∘ move) := rfl

@[simp] theorem Span.relocate_id : Span.relocate id = id := rfl

@[simp] theorem Token.relocate_id : Token.relocate id = id := rfl

namespace Grammar

section
variable (move further : Nat → Nat)

@[simp] theorem Identifier.relocate_relocate (node : Identifier) :
    (node.relocate move).relocate further = node.relocate (further ∘ move) := by
  simp [Identifier.relocate]

@[simp] theorem Label.relocate_relocate (node : Label) :
    (node.relocate move).relocate further = node.relocate (further ∘ move) := by
  simp [Label.relocate]

@[simp] theorem Label.relocate_comp :
    Label.relocate further ∘ Label.relocate move = Label.relocate (further ∘ move) :=
  funext (Label.relocate_relocate move further)

@[simp] theorem QualifiedName.relocate_relocate (node : QualifiedName) :
    (node.relocate move).relocate further = node.relocate (further ∘ move) := by
  simp [QualifiedName.relocate]

@[simp] theorem QualifiedName.relocate_comp :
    QualifiedName.relocate further ∘ QualifiedName.relocate move =
      QualifiedName.relocate (further ∘ move) :=
  funext (QualifiedName.relocate_relocate move further)

@[simp] theorem NameList.relocate_comp :
    NameList.relocate further ∘ NameList.relocate move = NameList.relocate (further ∘ move) := by
  funext node
  simp [NameList.relocate]

@[simp] theorem Literal.relocate_relocate (node : Literal) :
    (node.relocate move).relocate further = node.relocate (further ∘ move) := by
  simp [Literal.relocate]

@[simp] theorem DataType.relocate_relocate (node : DataType) :
    (node.relocate move).relocate further = node.relocate (further ∘ move) := by
  simp [DataType.relocate]

@[simp] theorem Identifier.relocate_id : Identifier.relocate id = id := by
  funext node
  simp [Identifier.relocate]

@[simp] theorem Label.relocate_id : Label.relocate id = id := by
  funext node
  simp [Label.relocate]

@[simp] theorem QualifiedName.relocate_id : QualifiedName.relocate id = id := by
  funext node
  simp [QualifiedName.relocate]

@[simp] theorem NameList.relocate_id : NameList.relocate id = id := by
  funext node
  simp [NameList.relocate]

@[simp] theorem Literal.relocate_id : Literal.relocate id = id := by
  funext node
  simp [Literal.relocate]

@[simp] theorem DataType.relocate_id : DataType.relocate id = id := by
  funext node
  simp [DataType.relocate]

attribute [local simp] Expr.relocate Expr.relocateIn Expr.relocateAmong BooleanPrimary.relocate
  Predicate.relocate BitExpr.relocate SimpleExpr.relocate SimpleExpr.relocateIn
  CaseBranch.relocate CaseBranch.relocateAmong FunctionCall.relocate AggregationCall.relocate
  AggregationCall.relocateIn AggregationArgument.relocate AggregationArgument.relocateAmong
  SpecialCall.relocate SpecialCall.relocateIn CastCall.relocate RegularCall.relocate
  RegularCall.relocateIn OrderItem.relocate OrderItem.relocateAmong OrderClause.relocate
  OrderClause.relocateIn ConditionClause.relocate ConditionClause.relocateIn SelectItem.relocate
  SelectItem.relocateAmong SelectList.relocate Select.relocate Subquery.relocate
attribute [-simp] Expr.relocateIn_eq Expr.relocateAmong_eq SimpleExpr.relocateIn_eq
  CaseBranch.relocateAmong_eq AggregationCall.relocateIn_eq AggregationArgument.relocateAmong_eq
  SpecialCall.relocateIn_eq RegularCall.relocateIn_eq OrderItem.relocateAmong_eq
  OrderClause.relocateIn_eq ConditionClause.relocateIn_eq SelectItem.relocateAmong_eq

mutual

theorem Expr.relocate_relocate (node : Expr) :
    (node.relocate move).relocate further = node.relocate (further ∘ move) := by
  cases node with
  | logical _ left _ right => simp [left.relocate_relocate, right.relocate_relocate]
  | xor _ left right => simp [left.relocate_relocate, right.relocate_relocate]
  | not _ _ operand => simp [operand.relocate_relocate]
  | paren _ inner => simp [inner.relocate_relocate]
  | primary inner => simp [inner.relocate_relocate]

theorem Expr.relocateIn_relocateIn (node : Option Expr) :
    Expr.relocateIn further (Expr.relocateIn move node) =
      Expr.relocateIn (further ∘ move) node := by
  cases node with
  | none => rfl
  | some inner => simp [inner.relocate_relocate]

theorem Expr.relocateAmong_relocateAmong (nodes : List Expr) :
    Expr.relocateAmong further (Expr.relocateAmong move nodes) =
      Expr.relocateAmong (further ∘ move) nodes := by
  cases nodes with
  | nil => rfl
  | cons first rest => simp [first.relocate_relocate, Expr.relocateAmong_relocateAmong rest]

theorem BooleanPrimary.relocate_relocate (node : BooleanPrimary) :
    (node.relocate move).relocate further = node.relocate (further ∘ move) := by
  cases node with
  | isTest _ operand _ _ => simp [operand.relocate_relocate]
  | comparison _ left _ right => simp [left.relocate_relocate, right.relocate_relocate]
  | quantified _ left _ _ query => simp [left.relocate_relocate, query.relocate_relocate]
  | predicate inner => simp [inner.relocate_relocate]

theorem Predicate.relocate_relocate (node : Predicate) :
    (node.relocate move).relocate further = node.relocate (further ∘ move) := by
  cases node with
  | inSubquery _ operand _ query => simp [operand.relocate_relocate, query.relocate_relocate]
  | inList _ operand _ _ items _ =>
      simp [operand.relocate_relocate, Expr.relocateAmong_relocateAmong items]
  | between _ operand _ lower upper =>
      simp [operand.relocate_relocate, lower.relocate_relocate, upper.relocate_relocate]
  | like _ operand _ pattern escape =>
      simp [operand.relocate_relocate, pattern.relocate_relocate,
        SimpleExpr.relocateIn_relocateIn escape]
  | bitExpr operand => simp [operand.relocate_relocate]

theorem BitExpr.relocate_relocate (node : BitExpr) :
    (node.relocate move).relocate further = node.relocate (further ∘ move) := by
  cases node with
  | binary _ left _ right => simp [left.relocate_relocate, right.relocate_relocate]
  | simple operand => simp [operand.relocate_relocate]

theorem SimpleExpr.relocate_relocate (node : SimpleExpr) :
    (node.relocate move).relocate further = node.relocate (further ∘ move) := by
  cases node with
  | subquery _ _ query => simp [query.relocate_relocate]
  | marker | literal | column => simp
  | call inner => simp [inner.relocate_relocate]
  | unary _ _ operand => simp [operand.relocate_relocate]
  | row _ items => simp [Expr.relocateAmong_relocateAmong items]
  | caseOf _ operand branches otherwise =>
      simp [SimpleExpr.relocateIn_relocateIn operand,
        CaseBranch.relocateAmong_relocateAmong branches, Expr.relocateIn_relocateIn otherwise]

theorem SimpleExpr.relocateIn_relocateIn (node : Option SimpleExpr) :
    SimpleExpr.relocateIn further (SimpleExpr.relocateIn move node) =
      SimpleExpr.relocateIn (further ∘ move) node := by
  cases node with
  | none => rfl
  | some inner => simp [inner.relocate_relocate]

theorem CaseBranch.relocateAmong_relocateAmong (nodes : List CaseBranch) :
    CaseBranch.relocateAmong further (CaseBranch.relocateAmong move nodes) =
      CaseBranch.relocateAmong (further ∘ move) nodes := by
  cases nodes with
  | nil => rfl
  | cons first rest =>
      obtain ⟨_, condition, result⟩ := first
      simp [condition.relocate_relocate, result.relocate_relocate,
        CaseBranch.relocateAmong_relocateAmong rest]

theorem FunctionCall.relocate_relocate (node : FunctionCall) :
    (node.relocate move).relocate further = node.relocate (further ∘ move) := by
  obtain ⟨_, aggregation, special, regular⟩ := node
  simp [AggregationCall.relocateIn_relocateIn aggregation,
    SpecialCall.relocateIn_relocateIn special, RegularCall.relocateIn_relocateIn regular]

theorem AggregationCall.relocateIn_relocateIn (node : Option AggregationCall) :
    AggregationCall.relocateIn further (AggregationCall.relocateIn move node) =
      AggregationCall.relocateIn (further ∘ move) node := by
  cases node with
  | none => rfl
  | some inner =>
      obtain ⟨_, _, _, _, arguments, _⟩ := inner
      simp [AggregationArgument.relocateAmong_relocateAmong arguments]

theorem AggregationArgument.relocateAmong_relocateAmong (nodes : List AggregationArgument) :
    AggregationArgument.relocateAmong further (AggregationArgument.relocateAmong move nodes) =
      AggregationArgument.relocateAmong (further ∘ move) nodes := by
  cases nodes with
  | nil => rfl
  | cons first rest =>
      cases first with
      | expr inner =>
          simp [inner.relocate_relocate, AggregationArgument.relocateAmong_relocateAmong rest]
      | asterisk | comma => simp [AggregationArgument.relocateAmong_relocateAmong rest]

theorem SpecialCall.relocateIn_relocateIn (node : Option SpecialCall) :
    SpecialCall.relocateIn further (SpecialCall.relocateIn move node) =
      SpecialCall.relocateIn (further ∘ move) node := by
  cases node with
  | none => rfl
  | some inner =>
      cases inner with
      | cast call =>
          obtain ⟨_, operand, _⟩ := call
          simp [operand.relocate_relocate]
      | substring _ arguments => simp [Expr.relocateAmong_relocateAmong arguments]
      | extract _ _ source => simp [source.relocate_relocate]
      | trim _ arguments => simp [Expr.relocateAmong_relocateAmong arguments]

theorem RegularCall.relocateIn_relocateIn (node : Option RegularCall) :
    RegularCall.relocateIn further (RegularCall.relocateIn move node) =
      RegularCall.relocateIn (further ∘ move) node := by
  cases node with
  | none => rfl
  | some inner =>
      obtain ⟨_, _, arguments, _⟩ := inner
      simp [Expr.relocateAmong_relocateAmong arguments]

theorem OrderItem.relocateAmong_relocateAmong (nodes : List OrderItem) :
    OrderItem.relocateAmong further (OrderItem.relocateAmong move nodes) =
      OrderItem.relocateAmong (further ∘ move) nodes := by
  cases nodes with
  | nil => rfl
  | cons first rest =>
      obtain ⟨_, _, _, inner, _, _⟩ := first
      simp [Expr.relocateIn_relocateIn inner, OrderItem.relocateAmong_relocateAmong rest]

theorem OrderClause.relocateIn_relocateIn (node : Option OrderClause) :
    OrderClause.relocateIn further (OrderClause.relocateIn move node) =
      OrderClause.relocateIn (further ∘ move) node := by
  cases node with
  | none => rfl
  | some inner =>
      obtain ⟨_, items⟩ := inner
      simp [OrderItem.relocateAmong_relocateAmong items]

theorem ConditionClause.relocateIn_relocateIn (node : Option ConditionClause) :
    ConditionClause.relocateIn further (ConditionClause.relocateIn move node) =
      ConditionClause.relocateIn (further ∘ move) node := by
  cases node with
  | none => rfl
  | some inner =>
      obtain ⟨_, condition⟩ := inner
      simp [condition.relocate_relocate]

theorem SelectItem.relocateAmong_relocateAmong (nodes : List SelectItem) :
    SelectItem.relocateAmong further (SelectItem.relocateAmong move nodes) =
      SelectItem.relocateAmong (further ∘ move) nodes := by
  cases nodes with
  | nil => rfl
  | cons first rest =>
      cases first with
      | shorthand | qualifiedShorthand => simp [SelectItem.relocateAmong_relocateAmong rest]
      | expr _ inner _ =>
          simp [inner.relocate_relocate, SelectItem.relocateAmong_relocateAmong rest]

/-- A move after a move is one move. -/
theorem Select.relocate_relocate (node : Select) :
    (node.relocate move).relocate further = node.relocate (further ∘ move) := by
  obtain ⟨_, _, ⟨_, items⟩, _, condition, grouping, having_, ordering⟩ := node
  simp [SelectItem.relocateAmong_relocateAmong items,
    ConditionClause.relocateIn_relocateIn condition, OrderClause.relocateIn_relocateIn grouping,
    ConditionClause.relocateIn_relocateIn having_, OrderClause.relocateIn_relocateIn ordering]

theorem Subquery.relocate_relocate (node : Subquery) :
    (node.relocate move).relocate further = node.relocate (further ∘ move) := by
  obtain ⟨_, _, inner, _⟩ := node
  simp [inner.relocate_relocate]

end

/-! ### Offsets that stay -/

mutual

theorem Expr.relocate_id (node : Expr) : node.relocate id = node := by
  cases node with
  | logical _ left _ right => simp [left.relocate_id, right.relocate_id]
  | xor _ left right => simp [left.relocate_id, right.relocate_id]
  | not _ _ operand => simp [operand.relocate_id]
  | paren _ inner => simp [inner.relocate_id]
  | primary inner => simp [inner.relocate_id]

theorem Expr.relocateIn_id (node : Option Expr) : Expr.relocateIn id node = node := by
  cases node with
  | none => rfl
  | some inner => simp [inner.relocate_id]

theorem Expr.relocateAmong_id (nodes : List Expr) : Expr.relocateAmong id nodes = nodes := by
  cases nodes with
  | nil => rfl
  | cons first rest => simp [first.relocate_id, Expr.relocateAmong_id rest]

theorem BooleanPrimary.relocate_id (node : BooleanPrimary) : node.relocate id = node := by
  cases node with
  | isTest _ operand _ _ => simp [operand.relocate_id]
  | comparison _ left _ right => simp [left.relocate_id, right.relocate_id]
  | quantified _ left _ _ query => simp [left.relocate_id, query.relocate_id]
  | predicate inner => simp [inner.relocate_id]

theorem Predicate.relocate_id (node : Predicate) : node.relocate id = node := by
  cases node with
  | inSubquery _ operand _ query => simp [operand.relocate_id, query.relocate_id]
  | inList _ operand _ _ items _ => simp [operand.relocate_id, Expr.relocateAmong_id items]
  | between _ operand _ lower upper =>
      simp [operand.relocate_id, lower.relocate_id, upper.relocate_id]
  | like _ operand _ pattern escape =>
      simp [operand.relocate_id, pattern.relocate_id, SimpleExpr.relocateIn_id escape]
  | bitExpr operand => simp [operand.relocate_id]

theorem BitExpr.relocate_id (node : BitExpr) : node.relocate id = node := by
  cases node with
  | binary _ left _ right => simp [left.relocate_id, right.relocate_id]
  | simple operand => simp [operand.relocate_id]

theorem SimpleExpr.relocate_id (node : SimpleExpr) : node.relocate id = node := by
  cases node with
  | subquery _ _ query => simp [query.relocate_id]
  | marker | literal | column => simp
  | call inner => simp [inner.relocate_id]
  | unary _ _ operand => simp [operand.relocate_id]
  | row _ items => simp [Expr.relocateAmong_id items]
  | caseOf _ operand branches otherwise =>
      simp [SimpleExpr.relocateIn_id operand, CaseBranch.relocateAmong_id branches,
        Expr.relocateIn_id otherwise]

theorem SimpleExpr.relocateIn_id (node : Option SimpleExpr) :
    SimpleExpr.relocateIn id node = node := by
  cases node with
  | none => rfl
  | some inner => simp [inner.relocate_id]

theorem CaseBranch.relocateAmong_id (nodes : List CaseBranch) :
    CaseBranch.relocateAmong id nodes = nodes := by
  cases nodes with
  | nil => rfl
  | cons first rest =>
      obtain ⟨_, condition, result⟩ := first
      simp [condition.relocate_id, result.relocate_id, CaseBranch.relocateAmong_id rest]

theorem FunctionCall.relocate_id (node : FunctionCall) : node.relocate id = node := by
  obtain ⟨_, aggregation, special, regular⟩ := node
  simp [AggregationCall.relocateIn_id aggregation, SpecialCall.relocateIn_id special,
    RegularCall.relocateIn_id regular]

theorem AggregationCall.relocate_id (node : AggregationCall) : node.relocate id = node := by
  obtain ⟨_, _, _, _, arguments, _⟩ := node
  simp [AggregationArgument.relocateAmong_id arguments]

theorem AggregationCall.relocateIn_id (node : Option AggregationCall) :
    AggregationCall.relocateIn id node = node := by
  cases node with
  | none => rfl
  | some inner => simp [inner.relocate_id]

theorem AggregationArgument.relocateAmong_id (nodes : List AggregationArgument) :
    AggregationArgument.relocateAmong id nodes = nodes := by
  cases nodes with
  | nil => rfl
  | cons first rest =>
      cases first with
      | expr inner => simp [inner.relocate_id, AggregationArgument.relocateAmong_id rest]
      | asterisk | comma => simp [AggregationArgument.relocateAmong_id rest]

theorem SpecialCall.relocate_id (node : SpecialCall) : node.relocate id = node := by
  cases node with
  | cast call => simp [call.relocate_id]
  | substring _ arguments => simp [Expr.relocateAmong_id arguments]
  | extract _ _ source => simp [source.relocate_id]
  | trim _ arguments => simp [Expr.relocateAmong_id arguments]

theorem SpecialCall.relocateIn_id (node : Option SpecialCall) :
    SpecialCall.relocateIn id node = node := by
  cases node with
  | none => rfl
  | some inner => simp [inner.relocate_id]

theorem CastCall.relocate_id (node : CastCall) : node.relocate id = node := by
  obtain ⟨_, operand, _⟩ := node
  simp [operand.relocate_id]

theorem RegularCall.relocate_id (node : RegularCall) : node.relocate id = node := by
  obtain ⟨_, _, arguments, _⟩ := node
  simp [Expr.relocateAmong_id arguments]

theorem RegularCall.relocateIn_id (node : Option RegularCall) :
    RegularCall.relocateIn id node = node := by
  cases node with
  | none => rfl
  | some inner => simp [inner.relocate_id]

theorem OrderItem.relocate_id (node : OrderItem) : node.relocate id = node := by
  obtain ⟨_, _, _, inner, _, _⟩ := node
  simp [Expr.relocateIn_id inner]

theorem OrderItem.relocateAmong_id (nodes : List OrderItem) :
    OrderItem.relocateAmong id nodes = nodes := by
  cases nodes with
  | nil => rfl
  | cons first rest => simp [first.relocate_id, OrderItem.relocateAmong_id rest]

theorem OrderClause.relocateIn_id (node : Option OrderClause) :
    OrderClause.relocateIn id node = node := by
  cases node with
  | none => rfl
  | some inner =>
      obtain ⟨_, items⟩ := inner
      simp [OrderItem.relocateAmong_id items]

theorem ConditionClause.relocateIn_id (node : Option ConditionClause) :
    ConditionClause.relocateIn id node = node := by
  cases node with
  | none => rfl
  | some inner =>
      obtain ⟨_, condition⟩ := inner
      simp [condition.relocate_id]

theorem SelectItem.relocateAmong_id (nodes : List SelectItem) :
    SelectItem.relocateAmong id nodes = nodes := by
  cases nodes with
  | nil => rfl
  | cons first rest =>
      cases first with
      | shorthand | qualifiedShorthand => simp [SelectItem.relocateAmong_id rest]
      | expr _ inner _ => simp [inner.relocate_id, SelectItem.relocateAmong_id rest]

/-- A tree whose offsets stay is the same tree. -/
theorem Select.relocate_id (node : Select) : node.relocate id = node := by
  obtain ⟨_, _, ⟨_, items⟩, _, condition, grouping, having_, ordering⟩ := node
  simp [SelectItem.relocateAmong_id items, ConditionClause.relocateIn_id condition,
    OrderClause.relocateIn_id grouping, ConditionClause.relocateIn_id having_,
    OrderClause.relocateIn_id ordering]

theorem Subquery.relocate_id (node : Subquery) : node.relocate id = node := by
  obtain ⟨_, _, inner, _⟩ := node
  simp [inner.relocate_id]

end

end

end Grammar

end AnnotatedSql
