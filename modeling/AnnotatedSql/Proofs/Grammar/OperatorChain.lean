/-
This file shows that the chains of operators in a parsed text, of connectives as well as of
arithmetic and bit operators, are grouped as the layered grammar of their ranks prescribes.
-/

import AnnotatedSql.Proofs.Grammar.Binding
import AnnotatedSql.Proofs.Grammar.Grouping

namespace AnnotatedSql.Grammar

variable {tokens : List Token}

/-! ### Chains of operators -/

/-- The expression as connectives group it. -/
def Expr.grouping (tokens : List Token) : Expr → Grouping Expr
  | .logical _ left operator right =>
      .joined (left.grouping tokens) (kindAt tokens operator) (right.grouping tokens)
  | .xor _ left right => .joined (left.grouping tokens) (.keyword .XOR) (right.grouping tokens)
  | node => .operand node

def BitExpr.grouping (tokens : List Token) : BitExpr → Grouping SimpleExpr
  | .binary _ left operator right =>
      .joined (left.grouping tokens) (kindAt tokens operator) (right.grouping tokens)
  | .simple operand => .operand operand

/-- The tokens are those of the operands and operators of a chain, in order. -/
inductive Spells {Operand : Type} (derives : Operand → List Token → Prop) :
    List (Operand ⊕ TokenKind) → List Token → Prop
  | nil : Spells derives [] []
  | operand {value : Operand} {rest : List (Operand ⊕ TokenKind)} {stretch others : List Token} :
      derives value stretch → Spells derives rest others →
      Spells derives (.inl value :: rest) (stretch ++ others)
  | operator {token : Token} {rest : List (Operand ⊕ TokenKind)} {others : List Token} :
      Spells derives rest others → Spells derives (.inr token.kind :: rest) (token :: others)

/-- The span is that of a chain among the tokens, grouped as the grammar of the operators of the
table prescribes. -/
structure Groups {Operand : Type} (tokens : List Token) (table : List (List TokenKind))
    (derives : Operand → List Token → Prop) (span : Span) (grouping : Grouping Operand) : Prop where
  prescribed : grouping.Prescribed (rankIn table)
  spelled : ∃ inside, inside <:+: tokens ∧ span = cover inside ∧
    Spells derives grouping.chain inside

/-- The chain in which the node joins its operands is grouped as prescribed. -/
def TreeNode.Grouped (tokens : List Token) : TreeNode → Prop
  | .expr node =>
      Groups tokens connectives (fun operand => DerivesWidely (.expr operand)) node.span
        (node.grouping tokens)
  | .bitExpr node =>
      Groups tokens bitOperators (fun operand => DerivesWidely (.simpleExpr operand)) node.span
        (node.grouping tokens)
  | _ => True

section
variable {Operand : Type} {derives : Operand → List Token → Prop}
  {first second : List (Operand ⊕ TokenKind)} {others : List Token}

theorem Spells.append (spelled : Spells derives first tokens)
    (further : Spells derives second others) : Spells derives (first ++ second) (tokens ++ others) := by
  induction spelled with
  | nil => exact further
  | operand derived _ ih =>
      rw [List.append_assoc]
      exact .operand derived ih
  | operator _ ih => exact .operator ih

theorem Spells.join {token : Token} (spelled : Spells derives first tokens)
    (further : Spells derives second others) :
    Spells derives (first ++ .inr token.kind :: second) (tokens ++ token :: others) :=
  spelled.append (.operator further)

theorem Spells.single {value : Operand} (derived : derives value tokens) :
    Spells derives [.inl value] tokens := by
  have spelled := Spells.operand derived .nil
  rwa [List.append_nil] at spelled

end

/-- The tokens of an expression spell its chain. -/
theorem Expr.spelled {stretch : List Token} (node : Expr)
    (known : ∀ token ∈ stretch, kindAt tokens token.span = token.kind)
    (derived : DerivesWidely (.expr node) stretch) :
    Spells (fun operand => DerivesWidely (.expr operand)) (node.grouping tokens).chain stretch := by
  match node with
  | .logical _ left operator right =>
      cases derived with
      | logical first connective second =>
          rw [Expr.grouping, Grouping.chain, known _ (by simp)]
          exact (left.spelled (fun token member => known token (by simp [member])) first).join
            (right.spelled (fun token member => known token (by simp [member])) second)
  | .xor _ left right =>
      cases derived with
      | xor first exclusive second =>
          rw [Expr.grouping, Grouping.chain, ← exclusive]
          exact (left.spelled (fun token member => known token (by simp [member])) first).join
            (right.spelled (fun token member => known token (by simp [member])) second)
  | .not _ _ _ | .paren _ _ | .primary _ => exact .single derived

theorem BitExpr.spelled {stretch : List Token} (node : BitExpr)
    (known : ∀ token ∈ stretch, kindAt tokens token.span = token.kind)
    (derived : DerivesWidely (.bitExpr node) stretch) :
    Spells (fun operand => DerivesWidely (.simpleExpr operand)) (node.grouping tokens).chain
      stretch := by
  match node with
  | .binary _ left operator right =>
      cases derived with
      | binary first _ second =>
          rw [BitExpr.grouping, Grouping.chain, known _ (by simp)]
          exact (left.spelled (fun token member => known token (by simp [member])) first).join
            (right.spelled (fun token member => known token (by simp [member])) second)
  | .simple _ =>
      cases derived with
      | simple derived => exact .single derived

/-- An operator that binds as its table says is in the table. -/
theorem Binds.atLeast {table : List (List TokenKind)} {left right : Option TokenKind}
    {operator : TokenKind} (binds : Binds table left operator right) :
    AtLeast table 0 (some operator) := by
  obtain ⟨rank, found, _⟩ := binds
  rintro other ⟨⟩
  exact ⟨rank, found, Nat.zero_le rank⟩

/-- An operator that binds as its table says joins layered groupings to one of its own layer. -/
theorem Binds.layered {Operand : Type} {table : List (List TokenKind)}
    {left right : Option TokenKind} {operator : TokenKind} {first second : Grouping Operand}
    {rank : Nat} (binds : Binds table left operator right)
    (least : AtLeast table rank (some operator))
    (onLeft : ∀ own, AtLeast table own left → first.Layered (rankIn table) own)
    (onRight : ∀ own, AtLeast table own right → second.Layered (rankIn table) own) :
    (Grouping.joined first operator second).Layered (rankIn table) rank := by
  obtain ⟨own, found, weaker, tighter⟩ := binds
  obtain ⟨_, same, below⟩ := least _ rfl
  obtain rfl := Option.some.inj (found.symm.trans same)
  exact (Grouping.Layered.joined found (onLeft _ weaker) (onRight _ tighter)).lower below

theorem Expr.atLeast_zero (node : Expr) (bound : (TreeNode.expr node).Bound tokens) :
    AtLeast connectives 0 (node.operator? tokens) := by
  cases node with
  | logical | xor => exact Binds.atLeast bound
  | _ => exact nofun

theorem BitExpr.atLeast_zero (node : BitExpr) (bound : (TreeNode.bitExpr node).Bound tokens) :
    AtLeast bitOperators 0 (node.operator? tokens) := by
  cases node with
  | binary => exact Binds.atLeast bound
  | simple => exact nofun

/-- Where all operators bind as the tables say, the chain of an expression is layered. -/
theorem Expr.layered (node : Expr) {rank : Nat}
    (bound : ∀ inner, (TreeNode.expr node).Has inner → inner.Bound tokens)
    (least : AtLeast connectives rank (node.operator? tokens)) :
    (node.grouping tokens).Layered (rankIn connectives) rank := by
  match node with
  | .logical _ left operator right =>
      refine Binds.layered (bound _ .refl) least (fun _ => left.layered fun _ has => ?_)
        fun _ => right.layered fun _ has => ?_
      · exact bound _ (.head (by simp [TreeNode.children]) has)
      · exact bound _ (.head (by simp [TreeNode.children]) has)
  | .xor _ left right =>
      refine Binds.layered (bound _ .refl) least (fun _ => left.layered fun _ has => ?_)
        fun _ => right.layered fun _ has => ?_
      · exact bound _ (.head (by simp [TreeNode.children]) has)
      · exact bound _ (.head (by simp [TreeNode.children]) has)
  | .not _ _ _ | .paren _ _ | .primary _ => exact .operand _ _

theorem BitExpr.layered (node : BitExpr) {rank : Nat}
    (bound : ∀ inner, (TreeNode.bitExpr node).Has inner → inner.Bound tokens)
    (least : AtLeast bitOperators rank (node.operator? tokens)) :
    (node.grouping tokens).Layered (rankIn bitOperators) rank := by
  match node with
  | .binary _ left operator right =>
      refine Binds.layered (bound _ .refl) least (fun _ => left.layered fun _ has => ?_)
        fun _ => right.layered fun _ has => ?_
      · exact bound _ (.head (by simp [TreeNode.children]) has)
      · exact bound _ (.head (by simp [TreeNode.children]) has)
  | .simple _ => exact .operand _ _

/-- An expression of which another one is built up from left to right stands in front of it. -/
theorem Expr.spine_derived {tokens : List Token} (root : Expr) {node : Expr}
    (derived : DerivesWidely (.expr root) tokens) (member : node ∈ root.spine) :
    ∃ inside, inside <+: tokens ∧ DerivesWidely (.expr node) inside := by
  match root with
  | .logical _ left operator right =>
      rw [Expr.spine] at member
      rcases List.mem_cons.mp member with rfl | onLeft
      · exact ⟨tokens, List.prefix_refl _, derived⟩
      · cases derived with
        | logical first _ _ =>
            obtain ⟨inside, isPrefix, inner⟩ := left.spine_derived first onLeft
            exact ⟨inside, isPrefix.trans (List.prefix_append _ _), inner⟩
  | .xor _ left right =>
      rw [Expr.spine] at member
      rcases List.mem_cons.mp member with rfl | onLeft
      · exact ⟨tokens, List.prefix_refl _, derived⟩
      · cases derived with
        | xor first _ _ =>
            obtain ⟨inside, isPrefix, inner⟩ := left.spine_derived first onLeft
            exact ⟨inside, isPrefix.trans (List.prefix_append _ _), inner⟩
  | .not _ _ _ | .paren _ _ | .primary _ =>
      obtain rfl := List.mem_singleton.mp member
      exact ⟨tokens, List.prefix_refl _, derived⟩

theorem BitExpr.spine_derived {tokens : List Token} (root : BitExpr) {node : BitExpr}
    (derived : DerivesWidely (.bitExpr root) tokens) (member : node ∈ root.spine) :
    ∃ inside, inside <+: tokens ∧ DerivesWidely (.bitExpr node) inside := by
  match root with
  | .binary _ left operator right =>
      rw [BitExpr.spine] at member
      rcases List.mem_cons.mp member with rfl | onLeft
      · exact ⟨tokens, List.prefix_refl _, derived⟩
      · cases derived with
        | binary first _ _ =>
            obtain ⟨inside, isPrefix, inner⟩ := left.spine_derived first onLeft
            exact ⟨inside, isPrefix.trans (List.prefix_append _ _), inner⟩
  | .simple _ =>
      obtain rfl := List.mem_singleton.mp member
      exact ⟨tokens, List.prefix_refl _, derived⟩

/-- An expression that the parser has chosen derives some of the tokens. -/
theorem Expr.Chosen.derived {origin : Cursor} {node : Expr} (chosen : node.Chosen origin)
    (ends : origin.Ends) :
    ∃ inside, inside <:+: origin.unread ∧ DerivesWidely (.expr node) inside := by
  obtain ⟨depth, minimum, place, root, after, follows, _, run, member⟩ := chosen
  obtain ⟨stretch, reads, derived⟩ := Parse.expr_finds .always (Parse.nested_sound .always depth)
    minimum (follows.ends ends) root after run
  obtain ⟨inside, isPrefix, inner⟩ := root.spine_derived derived member
  exact ⟨inside, isPrefix.isInfix.trans (Parse.infix_of_reads follows reads), inner⟩

theorem BitExpr.Chosen.derived {origin : Cursor} {node : BitExpr} (chosen : node.Chosen origin)
    (ends : origin.Ends) :
    ∃ inside, inside <:+: origin.unread ∧ DerivesWidely (.bitExpr node) inside := by
  obtain ⟨depth, minimum, place, root, after, follows, _, run, member⟩ := chosen
  obtain ⟨stretch, reads, derived⟩ := Parse.bitExpr_finds (Parse.nested_sound .always depth)
    minimum (follows.ends ends) root after run
  obtain ⟨inside, isPrefix, inner⟩ := root.spine_derived derived member
  exact ⟨inside, isPrefix.isInfix.trans (Parse.infix_of_reads follows reads), inner⟩

/-- In the tree of a text, no operand of a connective or of a bit operator is joined by one that
binds weaker, nor is the right one joined by one that binds alike, and no negated operand is joined
by a connective; so every chain of operators is grouped as the layered grammar of their ranks
prescribes. -/
theorem operators_grouped (source : Text) (tree : Select) (parsed : parse source = .ok tree)
    (node : TreeNode) (within : (TreeNode.select tree).Has node) :
    node.Bound (tokenize source) ∧ node.Grouped (tokenize source) := by
  refine ⟨parse_bound parsed within, ?_⟩
  have bound (inner : TreeNode) (has : node.Has inner) : inner.Bound (tokenize source) :=
    parse_bound parsed (within.trans has)
  have ends := Cursor.ofTokens_ends source
  have dropped := (List.dropLast_prefix (tokenize source)).isInfix
  cases node with
  | expr node =>
      obtain ⟨inside, infixed, derived⟩ := Expr.Chosen.derived (parse_chosen parsed within) ends
      have known (token : Token) (member : token ∈ inside) :=
        kindAt_eq (mem_tokenize (infixed.subset member))
      have laid := (laid_ofTokens source).fewer infixed.sublist
      exact ⟨(node.layered bound (node.atLeast_zero (bound _ .refl))).prescribed, inside,
        infixed.trans dropped, derived.span_eq laid rfl, node.spelled known derived⟩
  | bitExpr node =>
      obtain ⟨inside, infixed, derived⟩ := BitExpr.Chosen.derived (parse_chosen parsed within) ends
      have known (token : Token) (member : token ∈ inside) :=
        kindAt_eq (mem_tokenize (infixed.subset member))
      have laid := (laid_ofTokens source).fewer infixed.sublist
      exact ⟨(node.layered bound (node.atLeast_zero (bound _ .refl))).prescribed, inside,
        infixed.trans dropped, derived.span_eq laid rfl, node.spelled known derived⟩
  | _ => trivial

/-- A chain with connectives of all ranks, around one of bit operators. -/
theorem operators_grouped_mixed :
    ∃ tree node, parse "SELECT a FROM t WHERE a OR b XOR c && NOT d XOR e + f * g - h".toList =
        .ok tree ∧
      tree.condition.map ConditionClause.expr = some node ∧
      (TreeNode.expr node).Bound
        (tokenize "SELECT a FROM t WHERE a OR b XOR c && NOT d XOR e + f * g - h".toList) ∧
      (TreeNode.expr node).Grouped
        (tokenize "SELECT a FROM t WHERE a OR b XOR c && NOT d XOR e + f * g - h".toList) := by
  have filtered : ((parse "SELECT a FROM t WHERE a OR b XOR c && NOT d XOR e + f * g - h".toList
      ).toOption.bind Select.condition).isSome := by decide +kernel
  rcases parsed : parse "SELECT a FROM t WHERE a OR b XOR c && NOT d XOR e + f * g - h".toList
    with error | tree
  · rw [parsed] at filtered
    exact absurd filtered Bool.false_ne_true
  · rw [parsed] at filtered
    obtain ⟨clause, condition⟩ := Option.isSome_iff_exists.mp filtered
    change tree.condition = some clause at condition
    have within : (TreeNode.select tree).Has (.expr clause.expr) :=
      .tail (.single (show TreeNode.condition clause ∈ _ by simp [TreeNode.children, condition]))
        (by simp [TreeNode.children])
    exact ⟨tree, clause.expr, rfl, by rw [condition]; rfl,
      operators_grouped _ tree parsed _ within⟩

end AnnotatedSql.Grammar
