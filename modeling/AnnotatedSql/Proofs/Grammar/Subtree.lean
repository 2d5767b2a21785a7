/-
This file looks at a grammar tree as a tree of nodes: what lies right below each node, in the
order of its fields, and what lies below it at any depth.
-/

import AnnotatedSql.Grammar.Tree
import Mathlib.Logic.Relation

namespace AnnotatedSql.Grammar

/-- A node of a grammar tree, of whichever sort.
A leaf is a token by itself, a parameter marker or the name of a data type. -/
inductive TreeNode
  | leaf (span : Span)
  | identifier (node : Identifier)
  | label (node : Label)
  | qualifiedName (node : QualifiedName)
  | nameList (node : NameList)
  | literal (node : Literal)
  | dataType (node : DataType)
  | expr (node : Expr)
  | primary (node : BooleanPrimary)
  | predicate (node : Predicate)
  | bitExpr (node : BitExpr)
  | simpleExpr (node : SimpleExpr)
  | caseBranch (node : CaseBranch)
  | call (node : FunctionCall)
  | aggregation (node : AggregationCall)
  | argument (node : AggregationArgument)
  | special (node : SpecialCall)
  | cast (node : CastCall)
  | regular (node : RegularCall)
  | orderItem (node : OrderItem)
  | orderClause (node : OrderClause)
  | condition (node : ConditionClause)
  | selectItem (node : SelectItem)
  | selectList (node : SelectList)
  | select (node : Select)
  | subquery (node : Subquery)

namespace TreeNode

def span : TreeNode → Span
  | .leaf span => span
  | .identifier node => node.span
  | .label node => node.span
  | .qualifiedName node => node.span
  | .nameList node => node.span
  | .literal node => node.span
  | .dataType node => node.span
  | .expr node => node.span
  | .primary node => node.span
  | .predicate node => node.span
  | .bitExpr node => node.span
  | .simpleExpr node => node.span
  | .caseBranch node => node.span
  | .call node => node.span
  | .aggregation node => node.span
  | .argument node => node.span
  | .special node => node.span
  | .cast node => node.span
  | .regular node => node.span
  | .orderItem node => node.span
  | .orderClause node => node.span
  | .condition node => node.span
  | .selectItem node => node.span
  | .selectList node => node.span
  | .select node => node.span
  | .subquery node => node.span

/-- A token that may be missing. -/
def leaf? (found : Option Span) : List TreeNode := found.toList.map .leaf

/-- The nodes right below a node, in the order of its fields. -/
def children : TreeNode → List TreeNode
  | .leaf _ => []
  | .identifier node => leaf? node.unreservedWord
  | .label node => [.identifier node.identifier]
  | .qualifiedName node => node.owner.toList.map .label ++ [.identifier node.name]
  | .nameList node => node.names.map .qualifiedName
  | .literal node =>
      leaf? node.string ++ leaf? node.number ++ leaf? node.hexadecimal ++ leaf? node.bitValue ++
        leaf? node.boolean ++ leaf? node.null
  | .dataType node => [.leaf node.name]
  | .expr (.logical _ left operator right) => [.expr left, .leaf operator, .expr right]
  | .expr (.xor _ left right) => [.expr left, .expr right]
  | .expr (.not _ operator operand) => [.leaf operator, .expr operand]
  | .expr (.paren _ inner) => [.expr inner]
  | .expr (.primary inner) => [.primary inner]
  | .primary (.isTest _ operand negation value) =>
      [.primary operand] ++ leaf? negation ++ [.leaf value]
  | .primary (.comparison _ left operator right) =>
      [.primary left, .leaf operator, .predicate right]
  | .primary (.quantified _ left operator quantifier query) =>
      [.primary left, .leaf operator, .leaf quantifier, .subquery query]
  | .primary (.predicate inner) => [.predicate inner]
  | .predicate (.inSubquery _ operand negation query) =>
      [.bitExpr operand] ++ leaf? negation ++ [.subquery query]
  | .predicate (.inList _ operand negation leftParen items rightParen) =>
      [.bitExpr operand] ++ leaf? negation ++ .leaf leftParen :: items.map .expr ++
        [.leaf rightParen]
  | .predicate (.between _ operand negation lower upper) =>
      [.bitExpr operand] ++ leaf? negation ++ [.bitExpr lower] ++ [.predicate upper]
  | .predicate (.like _ operand negation pattern escape) =>
      [.bitExpr operand] ++ leaf? negation ++ [.simpleExpr pattern] ++
        escape.toList.map .simpleExpr
  | .predicate (.bitExpr operand) => [.bitExpr operand]
  | .bitExpr (.binary _ left operator right) => [.bitExpr left, .leaf operator, .bitExpr right]
  | .bitExpr (.simple operand) => [.simpleExpr operand]
  | .simpleExpr (.subquery _ existsWord query) => leaf? existsWord ++ [.subquery query]
  | .simpleExpr (.marker span) => [.leaf span]
  | .simpleExpr (.literal node) => [.literal node]
  | .simpleExpr (.call node) => [.call node]
  | .simpleExpr (.column name) => [.qualifiedName name]
  | .simpleExpr (.unary _ operator operand) => [.leaf operator, .simpleExpr operand]
  | .simpleExpr (.row _ items) => items.map .expr
  | .simpleExpr (.caseOf _ operand branches otherwise) =>
      operand.toList.map .simpleExpr ++ branches.map .caseBranch ++ otherwise.toList.map .expr
  | .caseBranch node => [.expr node.condition, .expr node.result]
  | .call node =>
      node.aggregation.toList.map .aggregation ++ node.special.toList.map .special ++
        node.regular.toList.map .regular
  | .aggregation node =>
      .leaf node.name :: .leaf node.leftParen :: leaf? node.distinct ++
        node.arguments.map .argument ++ [.leaf node.rightParen]
  | .argument (.expr inner) => [.expr inner]
  | .argument (.asterisk span) | .argument (.comma span) => [.leaf span]
  | .special (.cast node) => [.cast node]
  | .special (.substring _ arguments) | .special (.trim _ arguments) => arguments.map .expr
  | .special (.extract _ field source) => [.identifier field, .expr source]
  | .cast node => [.expr node.operand, .dataType node.dataType]
  | .regular node => .identifier node.name :: (node.arguments.map .expr ++ leaf? node.asterisk)
  | .orderItem node =>
      node.column.toList.map .qualifiedName ++ leaf? node.number ++ node.expr.toList.map .expr ++
        leaf? node.ascending ++ leaf? node.descending
  | .orderClause node => node.items.map .orderItem
  | .condition node => [.expr node.expr]
  | .selectItem (.shorthand star) => [.leaf star]
  | .selectItem (.qualifiedShorthand _ owner) => [.label owner]
  | .selectItem (.expr _ inner itemLabel) => .expr inner :: itemLabel.toList.map .label
  | .selectList node => node.items.map .selectItem
  | .select node =>
      leaf? node.distinct ++ [.selectList node.selectList] ++ node.tables.toList.map .nameList ++
        node.condition.toList.map .condition ++ node.grouping.toList.map .orderClause ++
        node.having.toList.map .condition ++ node.ordering.toList.map .orderClause
  | .subquery node => [.leaf node.leftParen, .select node.select, .leaf node.rightParen]

/-- The first node is the second one or lies above it. -/
def Has : TreeNode → TreeNode → Prop :=
  Relation.ReflTransGen fun outer inner => inner ∈ outer.children

end TreeNode

end AnnotatedSql.Grammar
