/-
This file lists the parts of a grammar tree: all spans in it, and the order items and statements
at any depth.
-/

import AnnotatedSql.Proofs.Grammar.Derivation

namespace AnnotatedSql.Grammar

/-- A part of a tree; each list of parts below follows the order of the source. -/
inductive Part
  | span (span : Span)
  | item (item : OrderItem)
  | select (select : Select)

/-- A span that may be missing. -/
def Part.ofSpan? : Option Span → List Part
  | none => []
  | some found => [.span found]

@[simp] theorem Part.ofSpan_none : Part.ofSpan? none = [] := rfl

@[simp] theorem Part.ofSpan_some (found : Span) : Part.ofSpan? (some found) = [.span found] := rfl

/-! ### Parts of phrases without expressions -/

def Identifier.parts (node : Identifier) : List Part :=
  .span node.span :: Part.ofSpan? node.unreservedWord

def Label.parts (node : Label) : List Part := .span node.span :: node.identifier.parts

def Label.partsIn : Option Label → List Part
  | none => []
  | some node => node.parts

def QualifiedName.parts (node : QualifiedName) : List Part :=
  .span node.span :: (Label.partsIn node.owner ++ node.name.parts)

def QualifiedName.partsIn : Option QualifiedName → List Part
  | none => []
  | some node => node.parts

def QualifiedName.partsAmong : List QualifiedName → List Part
  | [] => []
  | first :: rest => first.parts ++ partsAmong rest

def NameList.partsIn : Option NameList → List Part
  | none => []
  | some node => .span node.span :: QualifiedName.partsAmong node.names

def Literal.parts (node : Literal) : List Part :=
  .span node.span ::
    (Part.ofSpan? node.string ++ Part.ofSpan? node.number ++ Part.ofSpan? node.hexadecimal ++
      Part.ofSpan? node.bitValue ++ Part.ofSpan? node.boolean ++ Part.ofSpan? node.null)

def DataType.parts (node : DataType) : List Part := [.span node.span, .span node.name]

/-! ### Parts of phrases with expressions -/

mutual

def Expr.parts : Expr → List Part
  | .logical span left operator right =>
      .span span :: (left.parts ++ .span operator :: right.parts)
  | .xor span left right => .span span :: (left.parts ++ right.parts)
  | .not span operator operand => .span span :: .span operator :: operand.parts
  | .paren span inner => .span span :: inner.parts
  | .primary inner => inner.parts

def Expr.partsIn : Option Expr → List Part
  | none => []
  | some node => node.parts

def Expr.partsAmong : List Expr → List Part
  | [] => []
  | first :: rest => first.parts ++ Expr.partsAmong rest

def BooleanPrimary.parts : BooleanPrimary → List Part
  | .isTest span operand negation value =>
      .span span :: (operand.parts ++ Part.ofSpan? negation ++ [.span value])
  | .comparison span left operator right =>
      .span span :: (left.parts ++ .span operator :: right.parts)
  | .quantified span left operator quantifier query =>
      .span span :: (left.parts ++ .span operator :: .span quantifier :: query.parts)
  | .predicate inner => inner.parts

def Predicate.parts : Predicate → List Part
  | .inSubquery span operand negation query =>
      .span span :: (operand.parts ++ Part.ofSpan? negation ++ query.parts)
  | .inList span operand negation leftParen items rightParen =>
      .span span :: (operand.parts ++ Part.ofSpan? negation ++
        .span leftParen :: Expr.partsAmong items ++ [.span rightParen])
  | .between span operand negation lower upper =>
      .span span :: (operand.parts ++ Part.ofSpan? negation ++ lower.parts ++ upper.parts)
  | .like span operand negation pattern escape =>
      .span span ::
        (operand.parts ++ Part.ofSpan? negation ++ pattern.parts ++ SimpleExpr.partsIn escape)
  | .bitExpr operand => operand.parts

def BitExpr.parts : BitExpr → List Part
  | .binary span left operator right =>
      .span span :: (left.parts ++ .span operator :: right.parts)
  | .simple operand => operand.parts

def SimpleExpr.parts : SimpleExpr → List Part
  | .subquery span existsWord query => .span span :: (Part.ofSpan? existsWord ++ query.parts)
  | .marker span => [.span span]
  | .literal node => node.parts
  | .call node => node.parts
  | .column name => name.parts
  | .unary span operator operand => .span span :: .span operator :: operand.parts
  | .row span items => .span span :: Expr.partsAmong items
  | .caseOf span operand branches otherwise =>
      .span span ::
        (SimpleExpr.partsIn operand ++ CaseBranch.partsAmong branches ++ Expr.partsIn otherwise)

def SimpleExpr.partsIn : Option SimpleExpr → List Part
  | none => []
  | some node => node.parts

def CaseBranch.partsAmong : List CaseBranch → List Part
  | [] => []
  | ⟨span, condition, result⟩ :: rest =>
      .span span :: (condition.parts ++ result.parts ++ CaseBranch.partsAmong rest)

def FunctionCall.parts : FunctionCall → List Part
  | ⟨span, aggregation, special, regular⟩ =>
      .span span :: (AggregationCall.partsIn aggregation ++ SpecialCall.partsIn special ++
        RegularCall.partsIn regular)

def AggregationCall.parts : AggregationCall → List Part
  | ⟨span, name, leftParen, distinct, arguments, rightParen⟩ =>
      .span span :: .span name :: .span leftParen :: (Part.ofSpan? distinct ++
        AggregationArgument.partsAmong arguments ++ [.span rightParen])

def AggregationCall.partsIn : Option AggregationCall → List Part
  | none => []
  | some node => node.parts

def AggregationArgument.partsAmong : List AggregationArgument → List Part
  | [] => []
  | .expr node :: rest => node.parts ++ AggregationArgument.partsAmong rest
  | .asterisk span :: rest | .comma span :: rest =>
      .span span :: AggregationArgument.partsAmong rest

def SpecialCall.parts : SpecialCall → List Part
  | .cast call => call.parts
  | .substring span arguments | .trim span arguments => .span span :: Expr.partsAmong arguments
  | .extract span field source => .span span :: (field.parts ++ source.parts)

def SpecialCall.partsIn : Option SpecialCall → List Part
  | none => []
  | some node => node.parts

def CastCall.parts : CastCall → List Part
  | ⟨span, operand, dataType⟩ => .span span :: (operand.parts ++ dataType.parts)

def RegularCall.parts : RegularCall → List Part
  | ⟨span, name, arguments, asterisk⟩ =>
      .span span :: (name.parts ++ Expr.partsAmong arguments ++ Part.ofSpan? asterisk)

def RegularCall.partsIn : Option RegularCall → List Part
  | none => []
  | some node => node.parts

/-- The item itself comes first. -/
def OrderItem.parts : OrderItem → List Part
  | ⟨span, column, number, expr, ascending, descending⟩ =>
      .item ⟨span, column, number, expr, ascending, descending⟩ :: .span span ::
        (QualifiedName.partsIn column ++ Part.ofSpan? number ++ Expr.partsIn expr ++
          Part.ofSpan? ascending ++ Part.ofSpan? descending)

def OrderItem.partsAmong : List OrderItem → List Part
  | [] => []
  | first :: rest => first.parts ++ OrderItem.partsAmong rest

def OrderClause.partsIn : Option OrderClause → List Part
  | none => []
  | some ⟨span, items⟩ => .span span :: OrderItem.partsAmong items

def ConditionClause.partsIn : Option ConditionClause → List Part
  | none => []
  | some ⟨span, node⟩ => .span span :: node.parts

def SelectItem.parts : SelectItem → List Part
  | .shorthand star => [.span star]
  | .qualifiedShorthand span owner => .span span :: owner.parts
  | .expr span node itemLabel => .span span :: (node.parts ++ Label.partsIn itemLabel)

def SelectItem.partsAmong : List SelectItem → List Part
  | [] => []
  | first :: rest => first.parts ++ SelectItem.partsAmong rest

def Select.parts : Select → List Part
  | ⟨span, distinct, ⟨listSpan, items⟩, tables, condition, grouping, having, ordering⟩ =>
      .span span :: (Part.ofSpan? distinct ++ .span listSpan :: SelectItem.partsAmong items ++
        NameList.partsIn tables ++ ConditionClause.partsIn condition ++
        OrderClause.partsIn grouping ++ ConditionClause.partsIn having ++
        OrderClause.partsIn ordering)

/-- The statement inside comes before its own parts. -/
def Subquery.parts : Subquery → List Part
  | ⟨span, leftParen, select, rightParen⟩ =>
      .span span :: .span leftParen :: .select select :: (select.parts ++ [.span rightParen])

end

section

-- The functions above have one equation for each sort of node; they are set up here, all at once.
attribute [local simp] Expr.parts Expr.partsIn Expr.partsAmong BooleanPrimary.parts
  Predicate.parts BitExpr.parts SimpleExpr.parts SimpleExpr.partsIn CaseBranch.partsAmong
  FunctionCall.parts AggregationCall.parts AggregationCall.partsIn AggregationArgument.partsAmong
  SpecialCall.parts SpecialCall.partsIn CastCall.parts RegularCall.parts RegularCall.partsIn
  OrderItem.parts OrderItem.partsAmong OrderClause.partsIn ConditionClause.partsIn
  SelectItem.parts SelectItem.partsAmong Select.parts Subquery.parts

theorem Expr.partsAmong_append (first second : List Expr) :
    Expr.partsAmong (first ++ second) = Expr.partsAmong first ++ Expr.partsAmong second := by
  induction first with
  | nil => rfl
  | cons node rest ih => simp [ih]

theorem Expr.partsAmong_toList (node : Option Expr) :
    Expr.partsAmong node.toList = Expr.partsIn node := by
  cases node <;> simp

end

/-- The parts of a node, with those of its lists and optional nodes. -/
def Node.parts : Node → List Part
  | .expr node => node.parts
  | .primary node => node.parts
  | .predicate node => node.parts
  | .bitExpr node => node.parts
  | .simpleExpr node => node.parts
  | .exprs nodes => Expr.partsAmong nodes
  | .expr? node | .ledExpr _ node | .separatedExpr _ node => Expr.partsIn node
  | .simpleExpr? node | .escape node => SimpleExpr.partsIn node
  | .branches nodes => CaseBranch.partsAmong nodes
  | .argumentChain nodes | .arguments nodes => AggregationArgument.partsAmong nodes
  | .regularArguments nodes asterisk => Expr.partsAmong nodes ++ Part.ofSpan? asterisk
  | .aggregation node => node.parts
  | .special node => node.parts
  | .regular node => node.parts
  | .orderTarget column number inner =>
      QualifiedName.partsIn column ++ Part.ofSpan? number ++ Expr.partsIn inner
  | .orderItem node => node.parts
  | .orderItems nodes => OrderItem.partsAmong nodes
  | .ordering _ clause => OrderClause.partsIn clause
  | .condition _ clause => ConditionClause.partsIn clause
  | .selectItem node => node.parts
  | .selectItems nodes => SelectItem.partsAmong nodes
  | .select node => node.parts
  | .subquery node => node.parts

/-! ### Numbers in order items -/

section
variable {parts further : List Part}

/-- The numbers that make up order items, in the order of the parts. -/
def numbers (parts : List Part) : List Span :=
  parts.filterMap fun part =>
    match part with
    | .item entry => entry.number
    | _ => none

@[simp] theorem numbers_nil : numbers [] = [] := rfl

@[simp] theorem numbers_append : numbers (parts ++ further) = numbers parts ++ numbers further :=
  List.filterMap_append

@[simp] theorem numbers_span {span : Span} : numbers (.span span :: parts) = numbers parts := rfl

@[simp] theorem numbers_select {node : Select} : numbers (.select node :: parts) = numbers parts :=
  rfl

@[simp] theorem numbers_item {item : OrderItem} :
    numbers (.item item :: parts) = item.number.toList ++ numbers parts := by
  rw [numbers, List.filterMap_cons]
  cases found : item.number <;> simp [found, numbers]

@[simp] theorem numbers_ofSpan {span : Option Span} : numbers (Part.ofSpan? span) = [] := by
  cases span <;> rfl

@[simp] theorem Identifier.numbers_parts {node : Identifier} : numbers node.parts = [] := by
  simp [Identifier.parts]

@[simp] theorem Label.numbers_parts {node : Label} : numbers node.parts = [] := by
  simp [Label.parts]

@[simp] theorem Label.numbers_partsIn {node : Option Label} :
    numbers (Label.partsIn node) = [] := by
  cases node <;> simp [Label.partsIn]

@[simp] theorem QualifiedName.numbers_parts {node : QualifiedName} : numbers node.parts = [] := by
  simp [QualifiedName.parts]

@[simp] theorem QualifiedName.numbers_partsIn {node : Option QualifiedName} :
    numbers (QualifiedName.partsIn node) = [] := by
  cases node <;> simp [QualifiedName.partsIn]

@[simp] theorem QualifiedName.numbers_partsAmong {nodes : List QualifiedName} :
    numbers (QualifiedName.partsAmong nodes) = [] := by
  induction nodes <;> simp_all [QualifiedName.partsAmong]

@[simp] theorem NameList.numbers_partsIn {node : Option NameList} :
    numbers (NameList.partsIn node) = [] := by
  cases node <;> simp [NameList.partsIn]

@[simp] theorem Literal.numbers_parts {node : Literal} : numbers node.parts = [] := by
  simp [Literal.parts]

@[simp] theorem DataType.numbers_parts {node : DataType} : numbers node.parts = [] := by
  simp [DataType.parts]

end

end AnnotatedSql.Grammar
