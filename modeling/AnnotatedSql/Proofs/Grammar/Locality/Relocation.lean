/-
This file moves tokens and grammar trees to other offsets, and shows that what tokens derive moves
with them.
-/

import AnnotatedSql.Proofs.Grammar.Derivation

namespace AnnotatedSql

/-- The span with both ends moved. -/
def Span.relocate (move : Nat → Nat) (span : Span) : Span := ⟨move span.start, move span.stop⟩

def Token.relocate (move : Nat → Nat) (token : Token) : Token :=
  ⟨token.kind, token.text, token.span.relocate move⟩

namespace Grammar

/-! ### Trees without expressions -/

def Identifier.relocate (move : Nat → Nat) (node : Identifier) : Identifier :=
  ⟨node.span.relocate move, node.unreservedWord.map (Span.relocate move)⟩

def Label.relocate (move : Nat → Nat) (node : Label) : Label :=
  ⟨node.span.relocate move, node.identifier.relocate move⟩

def QualifiedName.relocate (move : Nat → Nat) (node : QualifiedName) : QualifiedName :=
  ⟨node.span.relocate move, node.owner.map (Label.relocate move), node.name.relocate move⟩

def NameList.relocate (move : Nat → Nat) (node : NameList) : NameList :=
  ⟨node.span.relocate move, node.names.map (QualifiedName.relocate move)⟩

def Literal.relocate (move : Nat → Nat) (node : Literal) : Literal where
  span := node.span.relocate move
  string := node.string.map (Span.relocate move)
  number := node.number.map (Span.relocate move)
  hexadecimal := node.hexadecimal.map (Span.relocate move)
  bitValue := node.bitValue.map (Span.relocate move)
  boolean := node.boolean.map (Span.relocate move)
  null := node.null.map (Span.relocate move)

def DataType.relocate (move : Nat → Nat) (node : DataType) : DataType :=
  ⟨node.span.relocate move, node.name.relocate move⟩

/-! ### Trees with expressions -/

section
variable (move : Nat → Nat)

mutual

def Expr.relocate : Expr → Expr
  | .logical span left operator right =>
      .logical (span.relocate move) left.relocate (operator.relocate move) right.relocate
  | .xor span left right => .xor (span.relocate move) left.relocate right.relocate
  | .not span operator operand =>
      .not (span.relocate move) (operator.relocate move) operand.relocate
  | .paren span inner => .paren (span.relocate move) inner.relocate
  | .primary inner => .primary inner.relocate

def Expr.relocateIn : Option Expr → Option Expr
  | none => none
  | some node => some node.relocate

def Expr.relocateAmong : List Expr → List Expr
  | [] => []
  | first :: rest => first.relocate :: Expr.relocateAmong rest

def BooleanPrimary.relocate : BooleanPrimary → BooleanPrimary
  | .isTest span operand negation value =>
      .isTest (span.relocate move) operand.relocate (negation.map (Span.relocate move))
        (value.relocate move)
  | .comparison span left operator right =>
      .comparison (span.relocate move) left.relocate (operator.relocate move) right.relocate
  | .quantified span left operator quantifier query =>
      .quantified (span.relocate move) left.relocate (operator.relocate move)
        (quantifier.relocate move) query.relocate
  | .predicate inner => .predicate inner.relocate

def Predicate.relocate : Predicate → Predicate
  | .inSubquery span operand negation query =>
      .inSubquery (span.relocate move) operand.relocate (negation.map (Span.relocate move))
        query.relocate
  | .inList span operand negation leftParen items rightParen =>
      .inList (span.relocate move) operand.relocate (negation.map (Span.relocate move))
        (leftParen.relocate move) (Expr.relocateAmong items) (rightParen.relocate move)
  | .between span operand negation lower upper =>
      .between (span.relocate move) operand.relocate (negation.map (Span.relocate move))
        lower.relocate upper.relocate
  | .like span operand negation pattern escape =>
      .like (span.relocate move) operand.relocate (negation.map (Span.relocate move))
        pattern.relocate (SimpleExpr.relocateIn escape)
  | .bitExpr operand => .bitExpr operand.relocate

def BitExpr.relocate : BitExpr → BitExpr
  | .binary span left operator right =>
      .binary (span.relocate move) left.relocate (operator.relocate move) right.relocate
  | .simple operand => .simple operand.relocate

def SimpleExpr.relocate : SimpleExpr → SimpleExpr
  | .subquery span existsWord query =>
      .subquery (span.relocate move) (existsWord.map (Span.relocate move)) query.relocate
  | .marker span => .marker (span.relocate move)
  | .literal node => .literal (node.relocate move)
  | .call node => .call node.relocate
  | .column name => .column (name.relocate move)
  | .unary span operator operand =>
      .unary (span.relocate move) (operator.relocate move) operand.relocate
  | .row span items => .row (span.relocate move) (Expr.relocateAmong items)
  | .caseOf span operand branches otherwise =>
      .caseOf (span.relocate move) (SimpleExpr.relocateIn operand)
        (CaseBranch.relocateAmong branches) (Expr.relocateIn otherwise)

def SimpleExpr.relocateIn : Option SimpleExpr → Option SimpleExpr
  | none => none
  | some node => some node.relocate

def CaseBranch.relocate : CaseBranch → CaseBranch
  | ⟨span, condition, result⟩ => ⟨span.relocate move, condition.relocate, result.relocate⟩

def CaseBranch.relocateAmong : List CaseBranch → List CaseBranch
  | [] => []
  | first :: rest => first.relocate :: CaseBranch.relocateAmong rest

def FunctionCall.relocate : FunctionCall → FunctionCall
  | ⟨span, aggregation, special, regular⟩ =>
      ⟨span.relocate move, AggregationCall.relocateIn aggregation, SpecialCall.relocateIn special,
        RegularCall.relocateIn regular⟩

def AggregationCall.relocate : AggregationCall → AggregationCall
  | ⟨span, name, leftParen, distinct, arguments, rightParen⟩ =>
      ⟨span.relocate move, name.relocate move, leftParen.relocate move,
        distinct.map (Span.relocate move), AggregationArgument.relocateAmong arguments,
        rightParen.relocate move⟩

def AggregationCall.relocateIn : Option AggregationCall → Option AggregationCall
  | none => none
  | some node => some node.relocate

def AggregationArgument.relocate : AggregationArgument → AggregationArgument
  | .expr inner => .expr inner.relocate
  | .asterisk span => .asterisk (span.relocate move)
  | .comma span => .comma (span.relocate move)

def AggregationArgument.relocateAmong : List AggregationArgument → List AggregationArgument
  | [] => []
  | first :: rest => first.relocate :: AggregationArgument.relocateAmong rest

def SpecialCall.relocate : SpecialCall → SpecialCall
  | .cast call => .cast call.relocate
  | .substring span arguments => .substring (span.relocate move) (Expr.relocateAmong arguments)
  | .extract span field source =>
      .extract (span.relocate move) (field.relocate move) source.relocate
  | .trim span arguments => .trim (span.relocate move) (Expr.relocateAmong arguments)

def SpecialCall.relocateIn : Option SpecialCall → Option SpecialCall
  | none => none
  | some node => some node.relocate

def CastCall.relocate : CastCall → CastCall
  | ⟨span, operand, target⟩ => ⟨span.relocate move, operand.relocate, target.relocate move⟩

def RegularCall.relocate : RegularCall → RegularCall
  | ⟨span, name, arguments, asterisk⟩ =>
      ⟨span.relocate move, name.relocate move, Expr.relocateAmong arguments,
        asterisk.map (Span.relocate move)⟩

def RegularCall.relocateIn : Option RegularCall → Option RegularCall
  | none => none
  | some node => some node.relocate

def OrderItem.relocate : OrderItem → OrderItem
  | ⟨span, column, number, expr, ascending, descending⟩ =>
      ⟨span.relocate move, column.map (QualifiedName.relocate move),
        number.map (Span.relocate move), Expr.relocateIn expr,
        ascending.map (Span.relocate move), descending.map (Span.relocate move)⟩

def OrderItem.relocateAmong : List OrderItem → List OrderItem
  | [] => []
  | first :: rest => first.relocate :: OrderItem.relocateAmong rest

def OrderClause.relocate : OrderClause → OrderClause
  | ⟨span, items⟩ => ⟨span.relocate move, OrderItem.relocateAmong items⟩

def OrderClause.relocateIn : Option OrderClause → Option OrderClause
  | none => none
  | some node => some node.relocate

def ConditionClause.relocate : ConditionClause → ConditionClause
  | ⟨span, expr⟩ => ⟨span.relocate move, expr.relocate⟩

def ConditionClause.relocateIn : Option ConditionClause → Option ConditionClause
  | none => none
  | some node => some node.relocate

def SelectItem.relocate : SelectItem → SelectItem
  | .shorthand star => .shorthand (star.relocate move)
  | .qualifiedShorthand span owner =>
      .qualifiedShorthand (span.relocate move) (owner.relocate move)
  | .expr span inner itemLabel =>
      .expr (span.relocate move) inner.relocate (itemLabel.map (Label.relocate move))

def SelectItem.relocateAmong : List SelectItem → List SelectItem
  | [] => []
  | first :: rest => first.relocate :: SelectItem.relocateAmong rest

def SelectList.relocate : SelectList → SelectList
  | ⟨span, items⟩ => ⟨span.relocate move, SelectItem.relocateAmong items⟩

def Select.relocate : Select → Select
  | ⟨span, distinct, list, tables, condition, grouping, having, ordering⟩ =>
      ⟨span.relocate move, distinct.map (Span.relocate move), list.relocate,
        tables.map (NameList.relocate move), ConditionClause.relocateIn condition,
        OrderClause.relocateIn grouping, ConditionClause.relocateIn having,
        OrderClause.relocateIn ordering⟩

def Subquery.relocate : Subquery → Subquery
  | ⟨span, leftParen, select, rightParen⟩ =>
      ⟨span.relocate move, leftParen.relocate move, select.relocate, rightParen.relocate move⟩

end

section

-- The functions above have one equation for each sort of node; they are set up here, all at once.
attribute [local simp] Expr.relocate Expr.relocateIn Expr.relocateAmong BooleanPrimary.relocate
  Predicate.relocate BitExpr.relocate SimpleExpr.relocate SimpleExpr.relocateIn
  CaseBranch.relocate CaseBranch.relocateAmong FunctionCall.relocate AggregationCall.relocate
  AggregationCall.relocateIn AggregationArgument.relocate AggregationArgument.relocateAmong
  SpecialCall.relocate SpecialCall.relocateIn CastCall.relocate RegularCall.relocate
  RegularCall.relocateIn OrderItem.relocate OrderItem.relocateAmong OrderClause.relocate
  OrderClause.relocateIn ConditionClause.relocate ConditionClause.relocateIn SelectItem.relocate
  SelectItem.relocateAmong SelectList.relocate Select.relocate Subquery.relocate

@[simp] theorem Expr.relocateIn_eq (node : Option Expr) :
    Expr.relocateIn move node = node.map (Expr.relocate move) := by
  cases node <;> simp

@[simp] theorem Expr.relocateAmong_eq (nodes : List Expr) :
    Expr.relocateAmong move nodes = nodes.map (Expr.relocate move) := by
  induction nodes <;> simp_all

@[simp] theorem SimpleExpr.relocateIn_eq (node : Option SimpleExpr) :
    SimpleExpr.relocateIn move node = node.map (SimpleExpr.relocate move) := by
  cases node <;> simp

@[simp] theorem CaseBranch.relocateAmong_eq (nodes : List CaseBranch) :
    CaseBranch.relocateAmong move nodes = nodes.map (CaseBranch.relocate move) := by
  induction nodes <;> simp_all

@[simp] theorem AggregationCall.relocateIn_eq (node : Option AggregationCall) :
    AggregationCall.relocateIn move node = node.map (AggregationCall.relocate move) := by
  cases node <;> simp

@[simp] theorem AggregationArgument.relocateAmong_eq (nodes : List AggregationArgument) :
    AggregationArgument.relocateAmong move nodes = nodes.map (AggregationArgument.relocate move) := by
  induction nodes <;> simp_all

@[simp] theorem SpecialCall.relocateIn_eq (node : Option SpecialCall) :
    SpecialCall.relocateIn move node = node.map (SpecialCall.relocate move) := by
  cases node <;> simp

@[simp] theorem RegularCall.relocateIn_eq (node : Option RegularCall) :
    RegularCall.relocateIn move node = node.map (RegularCall.relocate move) := by
  cases node <;> simp

@[simp] theorem OrderItem.relocateAmong_eq (nodes : List OrderItem) :
    OrderItem.relocateAmong move nodes = nodes.map (OrderItem.relocate move) := by
  induction nodes <;> simp_all

@[simp] theorem OrderClause.relocateIn_eq (node : Option OrderClause) :
    OrderClause.relocateIn move node = node.map (OrderClause.relocate move) := by
  cases node <;> simp

@[simp] theorem ConditionClause.relocateIn_eq (node : Option ConditionClause) :
    ConditionClause.relocateIn move node = node.map (ConditionClause.relocate move) := by
  cases node <;> simp

@[simp] theorem SelectItem.relocateAmong_eq (nodes : List SelectItem) :
    SelectItem.relocateAmong move nodes = nodes.map (SelectItem.relocate move) := by
  induction nodes <;> simp_all

/-! ### Spans -/

@[simp] theorem SimpleExpr.span_relocate (node : SimpleExpr) :
    (node.relocate move).span = node.span.relocate move := by
  cases node with
  | literal | column => simp [SimpleExpr.span, Literal.relocate, QualifiedName.relocate]
  | call inner =>
      obtain ⟨_, _, _, _⟩ := inner
      simp [SimpleExpr.span]
  | _ => simp [SimpleExpr.span]

@[simp] theorem BitExpr.span_relocate (node : BitExpr) :
    (node.relocate move).span = node.span.relocate move := by
  cases node <;> simp [BitExpr.span]

@[simp] theorem Predicate.span_relocate (node : Predicate) :
    (node.relocate move).span = node.span.relocate move := by
  cases node <;> simp [Predicate.span]

@[simp] theorem BooleanPrimary.span_relocate (node : BooleanPrimary) :
    (node.relocate move).span = node.span.relocate move := by
  cases node <;> simp [BooleanPrimary.span]

@[simp] theorem Expr.span_relocate (node : Expr) :
    (node.relocate move).span = node.span.relocate move := by
  cases node <;> simp [Expr.span]

@[simp] theorem AggregationArgument.span_relocate (node : AggregationArgument) :
    (node.relocate move).span = node.span.relocate move := by
  cases node <;> simp [AggregationArgument.span]

@[simp] theorem CastCall.span_relocate (node : CastCall) :
    (node.relocate move).span = node.span.relocate move := by
  cases node
  simp

@[simp] theorem SpecialCall.span_relocate (node : SpecialCall) :
    (node.relocate move).span = node.span.relocate move := by
  cases node <;> simp [SpecialCall.span]

@[simp] theorem AggregationCall.span_relocate (node : AggregationCall) :
    (node.relocate move).span = node.span.relocate move := by
  cases node
  simp

@[simp] theorem RegularCall.span_relocate (node : RegularCall) :
    (node.relocate move).span = node.span.relocate move := by
  cases node
  simp

@[simp] theorem Subquery.span_relocate (node : Subquery) :
    (node.relocate move).span = node.span.relocate move := by
  cases node
  simp

end

end

end Grammar

end AnnotatedSql
