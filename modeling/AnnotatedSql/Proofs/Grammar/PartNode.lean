/-
This file shows that the order items and statements among the parts of a tree are nodes of it, and
that the parts of a node are parts of every node above it.
-/

import AnnotatedSql.Proofs.Grammar.Part
import AnnotatedSql.Proofs.Grammar.Soundness.Statement
import AnnotatedSql.Proofs.Grammar.Subtree

namespace AnnotatedSql.Grammar

/-- The nodes that a phrase consists of. -/
def Node.trees : Node → List TreeNode
  | .expr node => [.expr node]
  | .primary node => [.primary node]
  | .predicate node => [.predicate node]
  | .bitExpr node => [.bitExpr node]
  | .simpleExpr node => [.simpleExpr node]
  | .exprs nodes => nodes.map .expr
  | .expr? node | .ledExpr _ node | .separatedExpr _ node => node.toList.map .expr
  | .simpleExpr? node | .escape node => node.toList.map .simpleExpr
  | .branches nodes => nodes.map .caseBranch
  | .argumentChain nodes | .arguments nodes => nodes.map .argument
  | .regularArguments nodes asterisk => nodes.map .expr ++ TreeNode.leaf? asterisk
  | .aggregation node => [.aggregation node]
  | .special node => [.special node]
  | .regular node => [.regular node]
  | .orderTarget column number inner =>
      column.toList.map .qualifiedName ++ TreeNode.leaf? number ++ inner.toList.map .expr
  | .orderItem node => [.orderItem node]
  | .orderItems nodes => nodes.map .orderItem
  | .ordering _ clause => clause.toList.map .orderClause
  | .condition _ clause => clause.toList.map .condition
  | .selectItem node => [.selectItem node]
  | .selectItems nodes => nodes.map .selectItem
  | .select node => [.select node]
  | .subquery node => [.subquery node]

/-- The part is at or below one of the nodes, if it is an order item or a statement. -/
def Part.Below (roots : List TreeNode) : Part → Prop
  | .span _ => True
  | .item entry => ∃ root ∈ roots, root.Has (.orderItem entry)
  | .select node => ∃ root ∈ roots, root.Has (.select node)

def AllBelow (roots : List TreeNode) (parts : List Part) : Prop := ∀ part ∈ parts, part.Below roots

section
variable {roots others : List TreeNode} {root : TreeNode} {parts further : List Part}

@[simp] theorem allBelow_nil : AllBelow roots [] := nofun

@[simp] theorem allBelow_append :
    AllBelow roots (parts ++ further) ↔ AllBelow roots parts ∧ AllBelow roots further := by
  simp [AllBelow, or_imp, forall_and]

@[simp] theorem allBelow_span {span : Span} :
    AllBelow roots (.span span :: parts) ↔ AllBelow roots parts := by
  simp [AllBelow, Part.Below]

@[simp] theorem allBelow_ofSpan {span : Option Span} : AllBelow roots (Part.ofSpan? span) := by
  cases span <;> simp

@[simp] theorem allBelow_item {entry : OrderItem} :
    AllBelow roots (.item entry :: parts) ↔
      (∃ root ∈ roots, root.Has (.orderItem entry)) ∧ AllBelow roots parts := by
  simp [AllBelow, Part.Below]

@[simp] theorem allBelow_select {node : Select} :
    AllBelow roots (.select node :: parts) ↔
      (∃ root ∈ roots, root.Has (.select node)) ∧ AllBelow roots parts := by
  simp [AllBelow, Part.Below]

theorem AllBelow.mono (below : AllBelow others parts)
    (higher : ∀ other ∈ others, ∃ root ∈ roots, root.Has other) : AllBelow roots parts := by
  intro part member
  have found := below part member
  cases part with
  | span => trivial
  | item entry =>
      obtain ⟨other, isOther, has⟩ := found
      obtain ⟨root, isRoot, reaches⟩ := higher other isOther
      exact ⟨root, isRoot, reaches.trans has⟩
  | select node =>
      obtain ⟨other, isOther, has⟩ := found
      obtain ⟨root, isRoot, reaches⟩ := higher other isOther
      exact ⟨root, isRoot, reaches.trans has⟩

theorem AllBelow.among (below : AllBelow others parts) (among : ∀ other ∈ others, other ∈ roots) :
    AllBelow roots parts := below.mono fun other member => ⟨other, among other member, .refl⟩

theorem AllBelow.inside (below : AllBelow others parts) (isRoot : root ∈ roots)
    (inside : ∀ other ∈ others, other ∈ root.children) : AllBelow roots parts :=
  below.mono fun other member => ⟨root, isRoot, .single (inside other member)⟩

theorem AllBelow.children (below : AllBelow others parts)
    (inside : ∀ other ∈ others, other ∈ root.children) : AllBelow [root] parts :=
  below.inside (List.mem_singleton_self root) inside

theorem AllBelow.grandchildren {middle : TreeNode} (below : AllBelow others parts)
    (isChild : middle ∈ root.children) (inside : ∀ other ∈ others, other ∈ middle.children) :
    AllBelow [root] parts :=
  (below.children inside).children fun _ member => List.mem_singleton.mp member ▸ isChild

end

section
variable {roots : List TreeNode}

@[simp] theorem allBelow_identifier {node : Identifier} : AllBelow roots node.parts := by
  simp [Identifier.parts]

@[simp] theorem allBelow_label {node : Label} : AllBelow roots node.parts := by
  simp [Label.parts]

@[simp] theorem allBelow_labelIn {node : Option Label} : AllBelow roots (Label.partsIn node) := by
  cases node <;> simp [Label.partsIn]

@[simp] theorem allBelow_name {node : QualifiedName} : AllBelow roots node.parts := by
  simp [QualifiedName.parts]

@[simp] theorem allBelow_nameIn {node : Option QualifiedName} :
    AllBelow roots (QualifiedName.partsIn node) := by
  cases node <;> simp [QualifiedName.partsIn]

@[simp] theorem allBelow_names {names : List QualifiedName} :
    AllBelow roots (QualifiedName.partsAmong names) := by
  induction names <;> simp_all [QualifiedName.partsAmong]

@[simp] theorem allBelow_nameList {node : Option NameList} :
    AllBelow roots (NameList.partsIn node) := by
  cases node <;> simp [NameList.partsIn]

@[simp] theorem allBelow_literal {node : Literal} : AllBelow roots node.parts := by
  simp [Literal.parts]

@[simp] theorem allBelow_dataType {node : DataType} : AllBelow roots node.parts := by
  simp [DataType.parts]

end

section
attribute [local simp] Node.trees TreeNode.children

/-- The order items and the statements among the parts of a derived node are nodes below it. -/
theorem Derives.parts_below {quantifiable : TokenKind → Bool} {node : Node} {tokens : List Token}
    (derived : Derives quantifiable node tokens) : AllBelow node.trees node.parts := by
  induction derived with
  | aggregationCall _ call =>
      refine allBelow_span.mpr (allBelow_append.mpr ⟨?_, by simp [RegularCall.partsIn]⟩)
      refine allBelow_append.mpr ⟨?_, by simp [SpecialCall.partsIn]⟩
      exact call.grandchildren (List.mem_singleton_self _) (by simp)
  | specialCall _ call =>
      refine allBelow_span.mpr (allBelow_append.mpr ⟨?_, by simp [RegularCall.partsIn]⟩)
      exact call.grandchildren (List.mem_singleton_self _) (by simp)
  | regularCall _ call =>
      refine allBelow_span.mpr (allBelow_append.mpr ⟨?_, ?_⟩)
      · simp [AggregationCall.partsIn, SpecialCall.partsIn]
      · exact call.grandchildren (List.mem_singleton_self _) (by simp)
  | branch _ _ _ _ _ condition result rest =>
      refine allBelow_span.mpr (allBelow_append.mpr ⟨allBelow_append.mpr ⟨?_, ?_⟩, ?_⟩)
      · exact condition.inside List.mem_cons_self (by simp)
      · exact result.inside List.mem_cons_self (by simp)
      · exact rest.among fun _ => List.mem_cons_of_mem _
  | furtherArgument _ _ _ argument rest =>
      refine allBelow_append.mpr ⟨?_, allBelow_span.mpr ?_⟩
      · exact argument.inside List.mem_cons_self (by simp)
      · exact rest.among fun _ member => List.mem_cons_of_mem _ (List.mem_cons_of_mem _ member)
  | cast _ _ _ _ _ _ operand =>
      refine allBelow_span.mpr (allBelow_append.mpr ⟨?_, by simp⟩)
      exact operand.grandchildren (List.mem_singleton_self _) (by simp)
  | orderItem _ _ target =>
      refine allBelow_item.mpr ⟨⟨_, List.mem_singleton_self _, .refl⟩, allBelow_span.mpr ?_⟩
      refine allBelow_append.mpr ⟨allBelow_append.mpr ⟨?_, by simp⟩, by simp⟩
      exact target.children (by simp; grind)
  | @select _ items _ _ _ _ _ _ itemTokens _ _ _ _ _ _ _ _ _ _ _ _ _ _ ofItems ofCondition ofGrouping
      ofHaving ofOrdering =>
      have listed : AllBelow [.selectList ⟨cover itemTokens, items⟩] (SelectItem.partsAmong items) :=
        ofItems.children (by simp)
      refine allBelow_span.mpr (allBelow_append.mpr ⟨allBelow_append.mpr ⟨allBelow_append.mpr
        ⟨allBelow_append.mpr ⟨allBelow_append.mpr ⟨?_, by simp⟩, ?_⟩, ?_⟩, ?_⟩, ?_⟩)
      · exact allBelow_append.mpr ⟨by simp, allBelow_span.mpr (listed.children (by simp))⟩
      · exact ofCondition.children (by simp +contextual)
      · exact ofGrouping.children (by simp +contextual)
      · exact ofHaving.children (by simp +contextual)
      · exact ofOrdering.children (by simp +contextual)
  | subquery _ _ _ inner =>
      refine allBelow_span.mpr (allBelow_span.mpr (allBelow_select.mpr ⟨?_, ?_⟩))
      · exact ⟨_, List.mem_singleton_self _, .single (by simp)⟩
      · exact allBelow_append.mpr ⟨inner.children (by simp), by simp⟩
  | _ =>
      simp only [Node.trees, Node.parts, Expr.parts, Expr.partsIn, Expr.partsAmong,
        BooleanPrimary.parts, Predicate.parts, BitExpr.parts, SimpleExpr.parts, SimpleExpr.partsIn,
        CaseBranch.partsAmong, AggregationCall.parts, AggregationArgument.partsAmong,
        SpecialCall.parts, RegularCall.parts, OrderItem.partsAmong, OrderClause.partsIn,
        ConditionClause.partsIn, SelectItem.parts, SelectItem.partsAmong,
        Expr.partsAmong_append, Expr.partsAmong_toList, allBelow_append, allBelow_span,
        allBelow_nil, and_true, true_and, Part.ofSpan_none, Part.ofSpan_some, allBelow_ofSpan,
        allBelow_name, allBelow_nameIn, allBelow_labelIn, allBelow_literal, allBelow_label,
        allBelow_identifier] at *
      and_intros
      all_goals first
        | assumption
        | (refine AllBelow.children (by assumption) ?_; simp +contextual)
        | (refine AllBelow.among (by assumption) ?_; simp +contextual)

end

/-! ### Parts of the nodes below a node -/

theorem QualifiedName.partsAmong_toList (found : Option QualifiedName) :
    QualifiedName.partsAmong found.toList = QualifiedName.partsIn found := by
  cases found <;> simp [QualifiedName.partsAmong, QualifiedName.partsIn]

namespace TreeNode

/-- The parts of a node of whichever sort. -/
def parts : TreeNode → List Part
  | .leaf span => [.span span]
  | .identifier node => node.parts
  | .label node => node.parts
  | .qualifiedName node => node.parts
  | .nameList node => NameList.partsIn (some node)
  | .literal node => node.parts
  | .dataType node => node.parts
  | .expr node => node.parts
  | .primary node => node.parts
  | .predicate node => node.parts
  | .bitExpr node => node.parts
  | .simpleExpr node => node.parts
  | .caseBranch node => CaseBranch.partsAmong [node]
  | .call node => node.parts
  | .aggregation node => node.parts
  | .argument node => AggregationArgument.partsAmong [node]
  | .special node => node.parts
  | .cast node => node.parts
  | .regular node => node.parts
  | .orderItem node => node.parts
  | .orderClause node => OrderClause.partsIn (some node)
  | .condition node => ConditionClause.partsIn (some node)
  | .selectItem node => node.parts
  | .selectList node => .span node.span :: SelectItem.partsAmong node.items
  | .select node => node.parts
  | .subquery node => node.parts

section
variable {Item : Type} {kind : Item → TreeNode}

/-- The parts of nodes that stand in a list. -/
theorem flatMap_among {among : List Item → List Part} (nothing : among [] = [])
    (step : ∀ first rest, among (first :: rest) = (kind first).parts ++ among rest)
    (items : List Item) : (items.map kind).flatMap parts = among items := by
  induction items with
  | nil => exact nothing.symm
  | cons first rest ih => rw [List.map_cons, List.flatMap_cons, ih, step]

/-- The parts of a node that may be missing. -/
theorem flatMap_within {within : Option Item → List Part} (nothing : within none = [])
    (something : ∀ item, within (some item) = (kind item).parts) (found : Option Item) :
    (found.toList.map kind).flatMap parts = within found := by
  cases found with
  | none => exact nothing.symm
  | some item => exact (List.append_nil _).trans (something item).symm

end

section

attribute [local simp] parts Expr.parts BooleanPrimary.parts Predicate.parts BitExpr.parts
  SimpleExpr.parts CaseBranch.partsAmong FunctionCall.parts AggregationCall.parts
  AggregationArgument.partsAmong SpecialCall.parts CastCall.parts RegularCall.parts
  OrderItem.parts OrderClause.partsIn ConditionClause.partsIn SelectItem.parts Select.parts
  Subquery.parts QualifiedName.parts NameList.partsIn Label.parts Identifier.parts Literal.parts
  DataType.parts Expr.partsAmong_toList QualifiedName.partsAmong_toList

@[simp] theorem flatMap_leaf (found : Option Span) :
    (leaf? found).flatMap parts = Part.ofSpan? found :=
  flatMap_within rfl (fun _ => rfl) found

@[simp] theorem flatMap_exprs (nodes : List Expr) :
    (nodes.map expr).flatMap parts = Expr.partsAmong nodes :=
  flatMap_among rfl (fun _ _ => rfl) nodes

@[simp] theorem flatMap_simpleExpr (found : Option SimpleExpr) :
    (found.toList.map simpleExpr).flatMap parts = SimpleExpr.partsIn found :=
  flatMap_within rfl (fun _ => rfl) found

@[simp] theorem flatMap_branches (nodes : List CaseBranch) :
    (nodes.map caseBranch).flatMap parts = CaseBranch.partsAmong nodes :=
  flatMap_among rfl (fun ⟨_, _, _⟩ _ => by simp) nodes

@[simp] theorem flatMap_arguments (nodes : List AggregationArgument) :
    (nodes.map argument).flatMap parts = AggregationArgument.partsAmong nodes :=
  flatMap_among rfl (fun first _ => by cases first <;> simp) nodes

@[simp] theorem flatMap_aggregation (found : Option AggregationCall) :
    (found.toList.map aggregation).flatMap parts = AggregationCall.partsIn found :=
  flatMap_within rfl (fun _ => rfl) found

@[simp] theorem flatMap_special (found : Option SpecialCall) :
    (found.toList.map special).flatMap parts = SpecialCall.partsIn found :=
  flatMap_within rfl (fun _ => rfl) found

@[simp] theorem flatMap_regular (found : Option RegularCall) :
    (found.toList.map regular).flatMap parts = RegularCall.partsIn found :=
  flatMap_within rfl (fun _ => rfl) found

@[simp] theorem flatMap_labels (found : Option Label) :
    (found.toList.map label).flatMap parts = Label.partsIn found :=
  flatMap_within rfl (fun _ => rfl) found

@[simp] theorem flatMap_names (nodes : List QualifiedName) :
    (nodes.map qualifiedName).flatMap parts = QualifiedName.partsAmong nodes :=
  flatMap_among rfl (fun _ _ => rfl) nodes

@[simp] theorem flatMap_nameList (found : Option NameList) :
    (found.toList.map nameList).flatMap parts = NameList.partsIn found :=
  flatMap_within rfl (fun _ => rfl) found

@[simp] theorem flatMap_orderItems (nodes : List OrderItem) :
    (nodes.map orderItem).flatMap parts = OrderItem.partsAmong nodes :=
  flatMap_among rfl (fun _ _ => rfl) nodes

@[simp] theorem flatMap_orderClause (found : Option OrderClause) :
    (found.toList.map orderClause).flatMap parts = OrderClause.partsIn found :=
  flatMap_within rfl (fun _ => rfl) found

@[simp] theorem flatMap_condition (found : Option ConditionClause) :
    (found.toList.map condition).flatMap parts = ConditionClause.partsIn found :=
  flatMap_within rfl (fun _ => rfl) found

@[simp] theorem flatMap_selectItems (nodes : List SelectItem) :
    (nodes.map selectItem).flatMap parts = SelectItem.partsAmong nodes :=
  flatMap_among rfl (fun _ _ => rfl) nodes

/-- A node has the parts of the nodes right below it. -/
theorem parts_children (node : TreeNode) : node.children.flatMap parts ⊆ node.parts := by
  cases node with
  | expr node => cases node <;> simp [children]
  | primary node => cases node <;> simp [children]
  | predicate node => cases node <;> simp [children]
  | bitExpr node => cases node <;> simp [children]
  | simpleExpr node => cases node <;> simp +contextual [children, List.subset_def]
  | argument node => cases node <;> simp [children]
  | special node => cases node <;> simp [children]
  | selectItem node => cases node <;> simp [children]
  | caseBranch node | call node | aggregation node | cast node | regular node | orderItem node
  | orderClause node | condition node | subquery node =>
      cases node
      simp +contextual [children, List.subset_def]
  | select node =>
      obtain ⟨_, _, ⟨_, _⟩, _, _, _, _, _⟩ := node
      simp +contextual [children, List.subset_def]
  | _ node => simp [children]

/-- The parts of a node are parts of every node above it. -/
theorem Has.parts_subset {root node : TreeNode} (has : root.Has node) :
    node.parts ⊆ root.parts := by
  induction has with
  | refl => exact List.Subset.refl _
  | tail _ member ih =>
      intro part isPart
      exact ih (parts_children _ (List.mem_flatMap_of_mem member isPart))

end
end TreeNode

/-! ### In the tree of a source -/

section
variable {source : Text} {tree : Select} (parsed : parse source = .ok tree)
include parsed

theorem parse_parts_below : AllBelow [.select tree] tree.parts := by
  obtain ⟨tokens, closing, ending, whole, _, _, derived⟩ := parse_derives parsed
  exact derived.parts_below

theorem has_item {entry : OrderItem} (isPart : .item entry ∈ tree.parts) :
    (TreeNode.select tree).Has (.orderItem entry) := by
  obtain ⟨root, isRoot, has⟩ := parse_parts_below parsed _ isPart
  exact List.mem_singleton.mp isRoot ▸ has

theorem has_select {inner : Select} (isPart : .select inner ∈ tree.parts) :
    (TreeNode.select tree).Has (.select inner) := by
  obtain ⟨root, isRoot, has⟩ := parse_parts_below parsed _ isPart
  exact List.mem_singleton.mp isRoot ▸ has

end

end AnnotatedSql.Grammar
