/-
This file shows how the nodes of a derived tree stand on its tokens: the span of a node goes from
its first token to its last one, the nodes right below it stand on disjoint parts of its tokens, in
the order of its fields, and no token follows an expression that an operand could go on with.
-/

import AnnotatedSql.Proofs.Grammar.Completeness.Follow
import AnnotatedSql.Proofs.Grammar.Subtree

namespace AnnotatedSql.Grammar

/-- The span is that of a single token, or goes from the first token to the last one. -/
inductive Spans : List Token → Span → Prop
  | single {token} : Spans [token] token.span
  | several {tokens} : tokens ≠ [] → Spans tokens (cover tokens)

/-- The next token is not one that makes an operand below the logical level longer. -/
def Stops (behind : List Token) : Prop := ∀ next ∈ behind.head?, endsPrimary next.kind

/-- What follows an expression does not make it longer. -/
def TreeNode.Ends : TreeNode → List Token → Prop
  | .expr _, behind => Stops behind
  | _, _ => True

mutual

/-- The node stands on the tokens, in front of those behind, and so do the nodes below it, on parts
of its tokens. -/
inductive TreeNode.On : TreeNode → List Token → List Token → Prop
  | intro {node tokens behind} :
      Spans tokens (TreeNode.span node) → TreeNode.Ends node behind →
      InRow node.children tokens behind → TreeNode.On node tokens behind

/-- The nodes stand on parts of the tokens, one after the other, in front of those behind. -/
inductive InRow : List TreeNode → List Token → List Token → Prop
  | nil {tokens behind} : InRow [] tokens behind
  | cons {node rest gap tokens others behind} :
      TreeNode.On node tokens (others ++ behind) → InRow rest others behind →
      InRow (node :: rest) (gap ++ (tokens ++ others)) behind

end

variable {quantifiable : TokenKind → Bool} {node : TreeNode} {nodes further : List TreeNode}
  {tokens others behind : List Token} {token : Token}

/-! ### Rows -/

theorem InRow.right (row : InRow nodes others behind) : InRow nodes (tokens ++ others) behind := by
  cases row with
  | nil => exact .nil
  | cons first rest =>
      rw [← List.append_assoc]
      exact .cons first rest

theorem InRow.skip (row : InRow nodes tokens behind) : InRow nodes (token :: tokens) behind := by
  have row : InRow nodes ([token] ++ tokens) behind := row.right
  exact row

theorem InRow.append {nodes further : List TreeNode} {tokens others behind : List Token}
    (row : InRow nodes tokens (others ++ behind)) (later : InRow further others behind) :
    InRow (nodes ++ further) (tokens ++ others) behind :=
  match row with
  | .nil => later.right
  | .cons first rest => by
      rw [← List.append_assoc] at first
      rw [List.cons_append, List.append_assoc, List.append_assoc]
      exact .cons first (rest.append later)

theorem InRow.left (row : InRow nodes tokens (others ++ behind)) :
    InRow nodes (tokens ++ others) behind := by
  have nothing : InRow [] others behind := .nil
  have both := row.append nothing
  rw [List.append_nil] at both
  exact both

theorem TreeNode.On.row (stands : node.On tokens behind) : InRow [node] tokens behind := by
  have nothing : InRow [] [] behind := .nil
  have row : InRow [node] ([] ++ (tokens ++ [])) behind := .cons stands nothing
  rw [List.nil_append, List.append_nil] at row
  exact row

theorem TreeNode.On.before (stands : node.On tokens (others ++ behind))
    (row : InRow nodes others behind) : InRow (node :: nodes) (tokens ++ others) behind :=
  stands.row.append row

theorem on_leaf : (TreeNode.leaf token.span).On [token] behind := .intro .single trivial .nil

theorem on_leaf_cover (nonempty : tokens ≠ []) : (TreeNode.leaf (cover tokens)).On tokens behind :=
  .intro (.several nonempty) trivial .nil

theorem InRow.leaf (row : InRow nodes tokens behind) :
    InRow (.leaf token.span :: nodes) (token :: tokens) behind := on_leaf.before row

/-- A node in a row stands on some of its tokens. -/
theorem InRow.member {nodes : List TreeNode} {tokens behind : List Token}
    (row : InRow nodes tokens behind) (member : node ∈ nodes) :
    ∃ gap own others, tokens = gap ++ (own ++ others) ∧ node.On own (others ++ behind) :=
  match row with
  | .nil => absurd member List.not_mem_nil
  | @InRow.cons _ _ gap own others behind first row => by
      rcases List.mem_cons.mp member with rfl | member
      · exact ⟨gap, own, others, rfl, first⟩
      · obtain ⟨more, inner, rest, rfl, stands⟩ := row.member member
        exact ⟨gap ++ (own ++ more), inner, rest, by simp only [List.append_assoc], stands⟩

/-- The nodes below a node stand on parts of its tokens. -/
theorem TreeNode.On.within {root : TreeNode} (stands : root.On tokens behind)
    (has : root.Has node) :
    ∃ gap own others, tokens = gap ++ (own ++ others) ∧ node.On own (others ++ behind) := by
  induction has with
  | refl => exact ⟨[], tokens, [], by simp, stands⟩
  | tail _ member ih =>
      obtain ⟨gap, outer, others, rfl, outerStands⟩ := ih
      cases outerStands with
      | intro _ _ row =>
          obtain ⟨more, inner, rest, rfl, innerStands⟩ := row.member member
          rw [← List.append_assoc] at innerStands
          exact ⟨gap ++ more, inner, rest ++ others, by simp only [List.append_assoc], innerStands⟩

/-! ### Nodes over all their tokens -/

theorem TreeNode.On.spans (stands : node.On tokens behind) : Spans tokens node.span := by
  cases stands with
  | intro spans => exact spans

/-- A node with the span of its only child stands where the child stands. -/
theorem TreeNode.On.wrapped {inner : TreeNode} (stands : inner.On tokens behind)
    (same : node.span = inner.span) (only : node.children = [inner]) (ends : node.Ends behind) :
    node.On tokens behind := by
  refine .intro ?_ ends ?_
  · rw [same]
    exact stands.spans
  · rw [only]
    exact stands.row

theorem on_cover (span : node.span = cover tokens) (nonempty : tokens ≠ [])
    (ends : node.Ends behind) (row : InRow node.children tokens behind) :
    node.On tokens behind := by
  refine .intro ?_ ends row
  rw [span]
  exact .several nonempty

/-! ### Phrases without expressions -/

theorem on_identifier : (TreeNode.identifier (Identifier.ofToken token)).On [token] behind := by
  refine .intro .single trivial ?_
  rw [TreeNode.children, Identifier.ofToken]
  cases token.kind.keyword? with
  | none => exact .nil
  | some word => exact on_leaf.row

theorem on_label : (TreeNode.label (Label.ofToken token)).On [token] behind :=
  .intro .single trivial on_identifier.row

theorem QualifiedName.Derives.on {name : QualifiedName} (derived : name.Derives tokens) :
    (TreeNode.qualifiedName name).On tokens behind := by
  cases derived with
  | plain => exact .intro .single trivial on_identifier.row
  | owned => exact on_cover rfl (by simp) trivial (on_label.before on_identifier.row.skip)

theorem Literal.Derives.on {literal : Literal} (derived : literal.Derives tokens) :
    (TreeNode.literal literal).On tokens behind := by
  cases derived with
  | negativeNumber => exact on_cover rfl (by simp) trivial (on_leaf_cover (by simp)).row
  | _ => exact .intro .single trivial on_leaf.row

theorem Literal.Derives.on_number {literal : Literal} {value : Span}
    (derived : literal.Derives tokens) (found : literal.number = some value) :
    (TreeNode.leaf value).On tokens behind := by
  cases derived with
  | number =>
      cases found
      exact on_leaf
  | negativeNumber =>
      cases found
      exact on_leaf_cover (by simp)
  | _ => cases found

theorem Flag.row {word : Keyword} {found : Option Span} (flag : Flag word found tokens) :
    InRow (TreeNode.leaf? found) tokens behind := by
  cases flag with
  | absent => exact .nil
  | present => exact on_leaf.row

theorem DataType.Derives.on {target : DataType} (derived : target.Derives tokens) :
    (TreeNode.dataType target).On tokens behind := by
  cases derived with
  | plain words => exact on_cover rfl words trivial (on_leaf_cover words).row
  | sized words =>
      have nonempty := List.append_ne_nil_of_left_ne_nil words
      exact on_cover rfl (nonempty _) trivial (on_leaf_cover words).row.left

theorem ItemLabel.row {found : Option Label} (itemLabel : ItemLabel found tokens) :
    InRow (found.toList.map .label) tokens behind := by
  cases itemLabel with
  | absent => exact .nil
  | bare => exact on_label.row
  | led => exact on_label.row.skip

theorem names_row {names : List QualifiedName}
    (list : CommaList QualifiedName.Derives names tokens) :
    InRow (names.map .qualifiedName) tokens behind := by
  induction list with
  | single first => exact first.on.row
  | cons first comma _ ih => exact first.on.before ih.skip

theorem Tables.row {found : Option NameList} (tables : Tables found tokens) :
    InRow (found.toList.map .nameList) tokens behind := by
  cases tables with
  | absent => exact .nil
  | present word names =>
      have nonempty := names.nonempty fun _ _ derived => derived.nonempty
      have stands : (TreeNode.nameList ⟨cover _, _⟩).On _ behind :=
        on_cover rfl nonempty trivial (names_row names)
      exact stands.row.skip

theorem DirectionWord.row {ascending descending : Option Span}
    (direction : DirectionWord ascending descending tokens) :
    InRow (TreeNode.leaf? ascending ++ TreeNode.leaf? descending) tokens behind := by
  cases direction with
  | absent => exact .nil
  | ascending | descending => exact on_leaf.row

theorem DistinctWord.row {distinct : Option Span} (word : DistinctWord distinct tokens) :
    InRow (TreeNode.leaf? distinct) tokens behind := by
  cases word with
  | absent | all => exact .nil
  | distinct => exact on_leaf.row

theorem on_comma : (TreeNode.argument (.comma token.span)).On [token] behind :=
  on_leaf.wrapped rfl rfl trivial

theorem on_asterisk : (TreeNode.argument (.asterisk token.span)).On [token] behind :=
  on_leaf.wrapped rfl rfl trivial

/-! ### Tokens behind expressions -/

theorem stops_cons (ends : endsPrimary token.kind) : Stops (token :: behind) := by
  intro next found
  obtain rfl := Option.some.inj found
  exact ends

/-- Tokens that may be missing do not go on with an expression, if they start so. -/
theorem Stops.append (stops : Stops behind)
    (starts : ∀ first ∈ tokens.head?, endsPrimary first.kind) : Stops (tokens ++ behind) := by
  cases tokens with
  | nil => exact stops
  | cons first rest => exact stops_cons (starts first rfl)

theorem stops_of_kind {kind : TokenKind} (same : token.kind = kind) (ends : endsPrimary kind) :
    Stops (token :: behind) := stops_cons (by rw [same]; exact ends)

theorem Stops.phrase {node : Node} (stops : Stops behind)
    (derived : Derives quantifiable node tokens)
    (starts : ∀ kind, node.starts kind → endsPrimary kind) : Stops (tokens ++ behind) :=
  stops.append fun first found => starts first.kind (derived.starts first found)

theorem endsPrimary_of_keyword {kind : TokenKind} {word : Keyword} (ends : endsPrimary (.keyword word))
    (same : kind == .keyword word) : endsPrimary kind := by
  rw [beq_iff_eq.mp same]
  exact ends

theorem endsPrimary_of_separator {kind : TokenKind} {word : Keyword}
    (ends : endsPrimary (.keyword word)) (found : kind == .keyword word || kind == .symbol .comma) :
    endsPrimary kind := by
  rcases Bool.or_eq_true _ _ |>.mp found with same | comma
  · exact endsPrimary_of_keyword ends same
  · rw [beq_iff_eq.mp comma]
    rfl

theorem endsPrimary_of_isConnective {kind : TokenKind} (connective : isConnective kind) :
    endsPrimary kind := by
  apply endsPrimary_of_logical
  rw [logical_isSome, connective, Bool.true_or]

theorem ItemLabel.stops {found : Option Label} (itemLabel : ItemLabel found tokens)
    (stops : Stops behind) : Stops (tokens ++ behind) := by
  cases itemLabel with
  | absent => exact stops
  | bare name => exact stops_cons (endsExpr.primary (endsExpr_of_isName name))
  | led word => exact stops_of_kind word rfl

theorem DirectionWord.stops {ascending descending : Option Span}
    (direction : DirectionWord ascending descending tokens) (stops : Stops behind) :
    Stops (tokens ++ behind) := by
  cases direction with
  | absent => exact stops
  | ascending word | descending word => exact stops_of_kind word rfl

theorem Tables.stops {found : Option NameList} (tables : Tables found tokens)
    (stops : Stops behind) : Stops (tokens ++ behind) := by
  cases tables with
  | absent => exact stops
  | present word => exact stops_of_kind word rfl

/-! ### Phrases with expressions -/

/-- A node stands on the tokens that it derives, the nodes of a list stand on parts of them. -/
def Node.On : Node → List Token → List Token → Prop
  | .expr node => (TreeNode.expr node).On
  | .primary node => (TreeNode.primary node).On
  | .predicate node => (TreeNode.predicate node).On
  | .bitExpr node => (TreeNode.bitExpr node).On
  | .simpleExpr node => (TreeNode.simpleExpr node).On
  | .exprs nodes => InRow (nodes.map .expr)
  | .expr? node | .ledExpr _ node | .separatedExpr _ node => InRow (node.toList.map .expr)
  | .simpleExpr? node | .escape node => InRow (node.toList.map .simpleExpr)
  | .branches nodes => InRow (nodes.map .caseBranch)
  | .argumentChain nodes | .arguments nodes => InRow (nodes.map .argument)
  | .regularArguments nodes asterisk => InRow (nodes.map .expr ++ TreeNode.leaf? asterisk)
  | .aggregation node => (TreeNode.aggregation node).On
  | .special node => (TreeNode.special node).On
  | .regular node => (TreeNode.regular node).On
  | .orderTarget column number inner =>
      InRow (column.toList.map .qualifiedName ++ TreeNode.leaf? number ++ inner.toList.map .expr)
  | .orderItem node => (TreeNode.orderItem node).On
  | .orderItems nodes => InRow (nodes.map .orderItem)
  | .ordering _ clause => InRow (clause.toList.map .orderClause)
  | .condition _ clause => InRow (clause.toList.map .condition)
  | .selectItem node => (TreeNode.selectItem node).On
  | .selectItems nodes => InRow (nodes.map .selectItem)
  | .select node => (TreeNode.select node).On
  | .subquery node => (TreeNode.subquery node).On

/-- Phrases that may end with an expression. -/
def Node.isOpen : Node → Bool
  | .primary _ | .predicate _ | .bitExpr _ | .simpleExpr _ | .simpleExpr? _ | .escape _
  | .aggregation _ | .special _ | .regular _ | .subquery _ => false
  | _ => true

theorem Derives.on {node : Node} (derived : Derives quantifiable node tokens) :
    ∀ behind, (node.isOpen → Stops behind) → node.On tokens behind := by
  induction derived with
  | logical _ connective _ left right =>
      intro behind opens
      have operator := endsPrimary_of_isConnective connective
      exact on_cover rfl (by simp) (opens rfl)
        (TreeNode.On.before (left _ fun _ => stops_cons operator) (right _ opens).row.leaf)
  | xor _ connective _ left right =>
      intro behind opens
      exact on_cover rfl (by simp) (opens rfl)
        (TreeNode.On.before (left _ fun _ => stops_of_kind connective rfl) (right _ opens).row.skip)
  | negation _ _ operand =>
      intro behind opens
      exact on_cover rfl (by simp) (opens rfl) (operand _ opens).row.leaf
  | paren _ _ closing inner =>
      intro behind opens
      exact on_cover rfl (by simp) (opens rfl)
        (inner _ fun _ => stops_of_kind closing rfl).row.skip.left
  | primary _ inner =>
      intro behind opens
      exact (inner _ nofun).wrapped rfl rfl (opens rfl)
  | predicate _ inner | bitExpr _ inner | simple _ inner =>
      intro behind opens
      exact (inner _ nofun).wrapped rfl rfl trivial
  | comparison _ _ _ left right | binary _ _ _ left right =>
      intro behind _
      exact on_cover rfl (by simp) trivial ((left _ nofun).before (right _ nofun).row.leaf)
  | unary _ _ operand =>
      intro behind _
      exact on_cover rfl (by simp) trivial (operand _ nofun).row.leaf
  | isTest _ _ flag _ operand =>
      intro behind _
      exact on_cover rfl (by simp) trivial
        (((operand _ nofun).row.append flag.row.skip).append on_leaf.row)
  | quantified _ _ _ _ left query =>
      intro behind _
      exact on_cover rfl (by simp) trivial ((left _ nofun).before (query _ nofun).row.leaf.leaf)
  | inSubquery _ flag _ _ operand query =>
      intro behind _
      exact on_cover rfl (by simp) trivial
        (((operand _ nofun).row.append flag.row).append (query _ nofun).row.skip)
  | inList _ flag _ _ _ closing operand items =>
      intro behind _
      exact on_cover rfl (by simp) trivial
        ((((operand _ nofun).row.append flag.row).append
          (items _ fun _ => stops_of_kind closing rfl).leaf.skip).append on_leaf.row)
  | between _ flag _ _ _ _ operand lower upper =>
      intro behind _
      exact on_cover rfl (by simp) trivial
        ((((operand _ nofun).row.append flag.row).append (lower _ nofun).row.skip).append
          (upper _ nofun).row.skip)
  | like _ flag _ _ _ operand pattern escape =>
      intro behind _
      exact on_cover rfl (by simp) trivial
        ((((operand _ nofun).row.append flag.row).append (pattern _ nofun).row.skip).append
          (escape _ nofun))
  | noEscape | noSimpleExpr | noBranch | noExpr | unled | unseparated | noArguments
  | noRegularArguments | noOrdering | noCondition => exact fun _ _ => .nil
  | escape _ _ inner =>
      intro behind _
      exact (inner _ nofun).row.skip
  | led _ _ inner | separated _ _ inner =>
      intro behind opens
      exact (inner _ opens).row.skip
  | someSimpleExpr _ inner =>
      intro behind _
      exact (inner _ nofun).row
  | singleExpr _ inner | someExpr _ inner | orderExpr _ inner | lastOrderItem _ inner
  | lastSelectItem _ inner =>
      intro behind opens
      exact (inner _ opens).row
  | existence _ _ query =>
      intro behind _
      exact on_cover rfl (by simp) trivial (query _ nofun).row.leaf
  | bareSubquery _ query =>
      intro behind _
      exact (query _ nofun).wrapped rfl rfl trivial
  | marker => exact fun _ _ => on_leaf.wrapped rfl rfl trivial
  | literal derived => exact fun _ _ => derived.on.wrapped rfl rfl trivial
  | column derived => exact fun _ _ => derived.on.wrapped rfl rfl trivial
  | aggregationCall _ inner =>
      intro behind _
      have call : (TreeNode.call ⟨_, some _, none, none⟩).On _ behind :=
        (inner _ nofun).wrapped rfl rfl trivial
      exact call.wrapped rfl rfl trivial
  | specialCall _ inner =>
      intro behind _
      have call : (TreeNode.call ⟨_, none, some _, none⟩).On _ behind :=
        (inner _ nofun).wrapped rfl rfl trivial
      exact call.wrapped rfl rfl trivial
  | regularCall _ inner =>
      intro behind _
      have call : (TreeNode.call ⟨_, none, none, some _⟩).On _ behind :=
        (inner _ nofun).wrapped rfl rfl trivial
      exact call.wrapped rfl rfl trivial
  | row _ _ closing items =>
      intro behind _
      exact on_cover rfl (by simp) trivial (items _ fun _ => stops_of_kind closing rfl).skip.left
  | caseOf _ _ _ _ otherwise closing operand branches last =>
      intro behind _
      have ending : Stops (_ :: behind) := stops_of_kind closing rfl
      have stops := ending.phrase otherwise fun _ => endsPrimary_of_keyword rfl
      exact on_cover rfl (by simp) trivial
        (((operand _ nofun).append (branches _ fun _ => stops)).append
          (last _ fun _ => ending)).skip.left
  | branch _ _ word _ others condition result rest =>
      intro behind opens
      have stops := (opens rfl).phrase others fun _ => endsPrimary_of_keyword rfl
      refine TreeNode.On.before ?_ (rest _ opens)
      exact on_cover rfl (by simp) trivial (InRow.skip (TreeNode.On.before
        (condition _ fun _ => stops_of_kind word rfl) (result _ fun _ => stops).row.skip))
  | furtherExpr _ comma _ first rest | furtherOrderItem _ comma _ first rest
  | furtherSelectItem _ comma _ first rest =>
      intro behind opens
      exact TreeNode.On.before (first _ fun _ => stops_of_kind comma rfl) (rest _ opens).skip
  | lastArgument _ inner =>
      intro behind opens
      have argument : (TreeNode.argument (.expr _)).On _ behind :=
        (inner _ opens).wrapped rfl rfl trivial
      exact argument.row
  | furtherArgument _ comma _ first rest =>
      intro behind opens
      refine TreeNode.On.before ?_ ?_
      · exact (first _ fun _ => stops_of_kind comma rfl).wrapped rfl rfl trivial
      · exact on_comma.before (rest _ opens)
  | allArguments => exact fun _ _ => on_asterisk.row
  | allRegularArguments => exact fun _ _ => on_leaf.row
  | someArguments _ inner => exact inner
  | someRegularArguments _ items =>
      intro behind opens
      rw [Node.On, TreeNode.leaf?, Option.toList_none, List.map_nil, List.append_nil]
      exact items _ opens
  | aggregation _ _ flag _ closing arguments =>
      intro behind _
      have inner : InRow _ _ ([_] ++ behind) := arguments _ fun _ => stops_of_kind closing rfl
      exact on_cover rfl (by simp) trivial ((flag.row.append inner).append on_leaf.row).leaf.leaf
  | cast _ _ _ word target _ inner =>
      intro behind _
      refine TreeNode.On.wrapped (?_ : (TreeNode.cast ⟨_, _, _⟩).On _ _) rfl rfl trivial
      exact on_cover rfl (by simp) trivial (InRow.left (TreeNode.On.before
        (inner _ fun _ => stops_of_kind word rfl) target.on.row.skip)).skip.skip
  | substring _ _ _ second third _ closing inner more last =>
      intro behind _
      refine on_cover rfl (by simp) trivial ?_
      have ending : Stops (_ :: behind) := stops_of_kind closing rfl
      have afterSecond := ending.phrase third fun _ => endsPrimary_of_separator rfl
      have afterFirst := afterSecond.phrase second fun _ => endsPrimary_of_separator rfl
      rw [TreeNode.children, List.map_append, List.map_cons]
      exact ((TreeNode.On.before (inner _ fun _ => afterFirst)
        (more _ fun _ => afterSecond)).append (last _ fun _ => ending)).left.skip.skip
  | extract _ _ _ _ _ closing inner =>
      intro behind _
      exact on_cover rfl (by simp) trivial
        (on_identifier.before (inner _ fun _ => stops_of_kind closing rfl).row.skip).left.skip.skip
  | trim _ _ _ _ second closing first more =>
      intro behind _
      refine on_cover rfl (by simp) trivial ?_
      have ending : Stops (_ :: behind) := stops_of_kind closing rfl
      have stops := ending.phrase second fun _ => endsPrimary_of_keyword rfl
      rw [TreeNode.children, List.map_append]
      exact ((InRow.right (first _ fun _ => stops)).append (more _ fun _ => ending)).left.skip.skip
  | regular _ _ _ closing arguments =>
      intro behind _
      have inner : InRow _ _ ([_] ++ behind) := arguments _ fun _ => stops_of_kind closing rfl
      exact on_cover rfl (by simp) trivial (on_identifier.before inner.left.skip)
  | orderColumn derived => exact fun _ _ => derived.on.row
  | orderNumber derived found => exact fun _ _ => (derived.on_number found).row
  | orderItem derived direction target =>
      intro behind opens
      have nonempty := List.append_ne_nil_of_left_ne_nil (derived.nonempty rfl)
      have inner := target _ fun _ => direction.stops (opens rfl)
      have row := InRow.append inner direction.row
      rw [← List.append_assoc] at row
      exact on_cover rfl (nonempty _) trivial row
  | ordering _ _ _ items =>
      intro behind opens
      refine TreeNode.On.row ?_
      exact on_cover rfl (by simp) trivial (items _ opens).skip.skip
  | condition _ _ inner =>
      intro behind opens
      refine TreeNode.On.row ?_
      exact on_cover rfl (by simp) trivial (inner _ opens).row.skip
  | shorthand => exact fun _ _ => on_leaf.wrapped rfl rfl trivial
  | qualifiedShorthand => exact fun _ _ => on_cover rfl (by simp) trivial on_label.row.left
  | exprItem derived itemLabel inner =>
      intro behind opens
      have nonempty := List.append_ne_nil_of_left_ne_nil (derived.nonempty rfl)
      have item := inner _ fun _ => itemLabel.stops (opens rfl)
      exact on_cover rfl (nonempty _) trivial (TreeNode.On.before item itemLabel.row)
  | select _ distinct derived tables isCondition isGrouping isHaving isOrdering items condition
      grouping having ordering =>
      intro behind opens
      have afterHaving := (opens rfl).phrase isOrdering fun _ => endsPrimary_of_keyword rfl
      have afterGrouping := afterHaving.phrase isHaving fun _ => endsPrimary_of_keyword rfl
      have afterCondition := afterGrouping.phrase isGrouping fun _ => endsPrimary_of_keyword rfl
      have afterTables := afterCondition.phrase isCondition fun _ => endsPrimary_of_keyword rfl
      have list : (TreeNode.selectList ⟨cover _, _⟩).On _ _ :=
        on_cover rfl (derived.nonempty rfl) trivial (items _ fun _ => tables.stops afterTables)
      have front := (distinct.row.append list.row).append tables.row
      have middle := (front.append (condition _ fun _ => afterCondition)).append
        (grouping _ fun _ => afterGrouping)
      have row := (middle.append (having _ fun _ => afterHaving)).append (ordering _ opens)
      exact on_cover rfl (by simp) trivial row.skip
  | subquery _ _ closing inner =>
      intro behind _
      exact on_cover rfl (by simp) trivial
        (TreeNode.On.before (inner _ fun _ => stops_of_kind closing rfl) on_leaf.row).leaf

end AnnotatedSql.Grammar
