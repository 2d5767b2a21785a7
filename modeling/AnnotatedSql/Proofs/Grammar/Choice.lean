/-
This file follows the parser to the order items, simple expressions and subqueries of a tree: the
slot of an order item is filled for what the whole item is, a call is a regular one only if its name
is not that of an aggregate, and a subquery is kept as it was parsed at its place.
-/

import AnnotatedSql.Proofs.Grammar.Completeness.Select
import AnnotatedSql.Proofs.Grammar.Subtree
import AnnotatedSql.Proofs.Grammar.Soundness.Statement

namespace AnnotatedSql.Grammar

open Cursor

/-! ### Parts that the parser has chosen -/

/-- The kinds of tokens before which a statement may end. -/
def endsSelect : TokenKind → Bool
  | .symbol .rightParen | .symbol .semicolon | .endOfInput => true
  | _ => false

theorem endsOrderItem_of_endsSelect {kind : TokenKind} (ends : endsSelect kind) :
    Precedence.endsOrderItem kind := by
  unfold endsSelect at ends
  split at ends <;> first | rfl | exact absurd ends Bool.false_ne_true

/-- One slot is filled, for what the tokens are: that of a column for a name, that of a number for
a number token alone, and that of an expression for anything else. -/
inductive OrderItem.Slots :
    Option QualifiedName → Option Span → Option Expr → List Token → Prop
  | column {name stretch} : name.Derives stretch → Slots (some name) none none stretch
  | number {token} : token.kind = .number → Slots none (some token.span) none [token]
  | expr {node stretch} :
      DerivesWidely (.expr node) stretch → (∀ token, stretch = [token] → token.kind ≠ .number) →
      (∀ name : QualifiedName, ¬ name.Derives stretch) → Slots none none (some node) stretch

/-- The item covers some of the tokens: those of what it orders by, with a slot filled for them, and
those of its direction. -/
inductive OrderItem.Chosen (tokens : List Token) : OrderItem → Prop
  | intro {column number expr ascending descending stretch words} :
      Slots column number expr stretch → DirectionWord ascending descending words →
      stretch ++ words <:+: tokens →
      Chosen tokens ⟨cover (stretch ++ words), column, number, expr, ascending, descending⟩

theorem OrderItem.Slots.nonempty {column : Option QualifiedName} {number : Option Span}
    {expr : Option Expr} {stretch : List Token} (slots : Slots column number expr stretch) :
    stretch ≠ [] := by
  cases slots with
  | column derived => exact derived.nonempty
  | number => exact List.cons_ne_nil _ _
  | expr derived => exact derived.nonempty rfl

/-- The statement is what the parser finds at some place in the tokens, before a token that may
end a statement. -/
def Select.Chosen (origin : Cursor) (node : Select) : Prop :=
  ∃ depth place after, place.Follows origin ∧ place.position ≤ depth + 1 ∧
    Parse.select (Parse.nested .always depth) place = (.ok node, after) ∧
    endsSelect after.current.kind

/-- The expression and what stands on the left of its connectives. -/
def Expr.spine : Expr → List Expr
  | .logical span left operator right => .logical span left operator right :: left.spine
  | .xor span left right => .xor span left right :: left.spine
  | node => [node]

/-- The nodes right below the expressions of the spine that do not belong to it themselves. -/
def Expr.hanging : Expr → List TreeNode
  | .logical _ left operator right => left.hanging ++ [.leaf operator, .expr right]
  | .xor _ left right => left.hanging ++ [.expr right]
  | node => (TreeNode.expr node).children

def BitExpr.spine : BitExpr → List BitExpr
  | .binary span left operator right => .binary span left operator right :: left.spine
  | node => [node]

def BitExpr.hanging : BitExpr → List TreeNode
  | .binary _ left operator right => left.hanging ++ [.leaf operator, .bitExpr right]
  | node => (TreeNode.bitExpr node).children

/-- The bit expression is built up from left to right on the way to what the parser finds at some
place. -/
def BitExpr.Chosen (origin : Cursor) (node : BitExpr) : Prop :=
  ∃ depth minimum place root after, place.Follows origin ∧ place.position ≤ depth + 1 ∧
    Parse.bitExpr (Parse.nested .always depth) minimum place = (.ok root, after) ∧
    node ∈ root.spine

/-- The expression is built up from left to right on the way to what the parser finds at some
place. -/
def Expr.Chosen (origin : Cursor) (node : Expr) : Prop :=
  ∃ depth minimum place root after, place.Follows origin ∧ place.position ≤ depth + 1 ∧
    Parse.expr .always (Parse.nested .always depth) minimum place = (.ok root, after) ∧
    node ∈ root.spine

/-- The simple expression derives some of the tokens. -/
def SimpleExpr.Chosen (tokens : List Token) (node : SimpleExpr) : Prop :=
  ∃ stretch, stretch <:+: tokens ∧ DerivesWidely (.simpleExpr node) stretch

/-- The name of the call stands in the tokens and is not that of an aggregate. -/
def RegularCall.Chosen (tokens : List Token) (node : RegularCall) : Prop :=
  ∃ token ∈ tokens, token.span = node.name.span ∧ Parse.namesAggregate token = false

namespace TreeNode

def Chosen (origin : Cursor) : TreeNode → Prop
  | .bitExpr node => node.Chosen origin
  | .expr node => node.Chosen origin
  | .simpleExpr node => node.Chosen origin.unread
  | .regular node => node.Chosen origin.unread
  | .orderItem node => node.Chosen origin.unread
  | .select node => node.Chosen origin
  | _ => True

/-- The node and those below it are as the parser has chosen them. -/
def Settled (origin : Cursor) (root : TreeNode) : Prop := ∀ node, root.Has node → node.Chosen origin

end TreeNode

def AllSettled (origin : Cursor) (nodes : List TreeNode) : Prop :=
  ∀ node ∈ nodes, node.Settled origin

-- Every node below is looked at with those right below it.
attribute [local simp] TreeNode.children

section
variable {origin : Cursor} {node : TreeNode} {nodes further : List TreeNode}

@[simp] theorem allSettled_nil : AllSettled origin [] := nofun

@[simp] theorem allSettled_cons :
    AllSettled origin (node :: nodes) ↔ node.Settled origin ∧ AllSettled origin nodes := by
  simp [AllSettled]

@[simp] theorem allSettled_append :
    AllSettled origin (nodes ++ further) ↔ AllSettled origin nodes ∧ AllSettled origin further := by
  simp [AllSettled, or_imp, forall_and]

theorem settled_of_children (own : node.Chosen origin) (below : AllSettled origin node.children) :
    node.Settled origin := by
  intro inner has
  rcases Relation.ReflTransGen.cases_head has with rfl | ⟨child, member, has⟩
  · exact own
  · exact below child member inner has

@[simp] theorem settled_leaf {span : Span} : (TreeNode.leaf span).Settled origin :=
  settled_of_children trivial allSettled_nil

@[simp] theorem allSettled_leaf {span : Option Span} :
    AllSettled origin (TreeNode.leaf? span) := by
  cases span <;> simp [TreeNode.leaf?]

@[simp] theorem settled_identifier {name : Identifier} :
    (TreeNode.identifier name).Settled origin :=
  settled_of_children trivial allSettled_leaf

@[simp] theorem settled_label {name : Label} : (TreeNode.label name).Settled origin :=
  settled_of_children trivial (by simp)

@[simp] theorem allSettled_label {name : Option Label} :
    AllSettled origin (name.toList.map .label) := by
  cases name <;> simp

@[simp] theorem settled_qualifiedName {name : QualifiedName} :
    (TreeNode.qualifiedName name).Settled origin :=
  settled_of_children trivial (by simp)

@[simp] theorem allSettled_qualifiedName {name : Option QualifiedName} :
    AllSettled origin (name.toList.map .qualifiedName) := by
  cases name <;> simp

@[simp] theorem settled_nameList {names : NameList} :
    (TreeNode.nameList names).Settled origin := by
  refine settled_of_children trivial ?_
  intro node member
  obtain ⟨name, _, rfl⟩ := List.mem_map.mp member
  exact settled_qualifiedName

@[simp] theorem allSettled_nameList {names : Option NameList} :
    AllSettled origin (names.toList.map .nameList) := by
  cases names <;> simp

@[simp] theorem settled_literal {literal : Literal} :
    (TreeNode.literal literal).Settled origin :=
  settled_of_children trivial (by simp)

@[simp] theorem settled_dataType {target : DataType} :
    (TreeNode.dataType target).Settled origin :=
  settled_of_children trivial (by simp)

/-- An expression is settled if its spine is chosen and what hangs on the spine is settled. -/
theorem Expr.settled (node : Expr) (own : ∀ part ∈ node.spine, part.Chosen origin)
    (hanging : AllSettled origin node.hanging) : (TreeNode.expr node).Settled origin := by
  match node with
  | .logical span left operator right =>
      rw [Expr.spine] at own
      simp only [Expr.hanging, allSettled_append, allSettled_cons] at hanging
      have first := left.settled (fun part member => own part (.tail _ member)) hanging.1
      refine settled_of_children (own _ (.head _)) ?_
      simp [first, hanging]
  | .xor span left right =>
      rw [Expr.spine] at own
      simp only [Expr.hanging, allSettled_append, allSettled_cons] at hanging
      have first := left.settled (fun part member => own part (.tail _ member)) hanging.1
      refine settled_of_children (own _ (.head _)) ?_
      simp [first, hanging]
  | .not _ _ _ | .paren _ _ | .primary _ => exact settled_of_children (own _ (.head _)) hanging

theorem BitExpr.settled (node : BitExpr) (own : ∀ part ∈ node.spine, part.Chosen origin)
    (hanging : AllSettled origin node.hanging) : (TreeNode.bitExpr node).Settled origin := by
  match node with
  | .binary span left operator right =>
      rw [BitExpr.spine] at own
      simp only [BitExpr.hanging, allSettled_append, allSettled_cons] at hanging
      have first := left.settled (fun part member => own part (.tail _ member)) hanging.1
      refine settled_of_children (own _ (.head _)) ?_
      simp [first, hanging]
  | .simple _ => exact settled_of_children (own _ (.head _)) hanging

/-- What the value is as a node is settled. -/
abbrev Kept {Value : Type} (origin : Cursor) (kind : Value → TreeNode) (value : Value) : Prop :=
  (kind value).Settled origin

/-- What lies right below the value as a node is settled. -/
abbrev KeptBelow {Value : Type} (origin : Cursor) (kind : Value → TreeNode) (value : Value) : Prop :=
  AllSettled origin (kind value).children

abbrev KeptAll {Value : Type} (origin : Cursor) (kind : Value → TreeNode)
    (values : List Value) : Prop := AllSettled origin (values.map kind)

abbrev KeptIn {Value : Type} (origin : Cursor) (kind : Value → TreeNode)
    (value : Option Value) : Prop := AllSettled origin (value.toList.map kind)

theorem keptAll_cons {Value : Type} {kind : Value → TreeNode} {value : Value}
    {values : List Value} (kept : Kept origin kind value) (all : KeptAll origin kind values) :
    KeptAll origin kind (value :: values) := allSettled_cons.mpr ⟨kept, all⟩

theorem keptAll_single {Value : Type} {kind : Value → TreeNode} {value : Value}
    (kept : Kept origin kind value) : KeptAll origin kind [value] :=
  keptAll_cons kept allSettled_nil

theorem keptIn_none {Value : Type} {kind : Value → TreeNode} : KeptIn origin kind none :=
  allSettled_nil

theorem keptIn_some {Value : Type} {kind : Value → TreeNode} {value : Value}
    (kept : Kept origin kind value) : KeptIn origin kind (some value) := keptAll_single kept

/-- A node that only wraps another one is settled with it. -/
theorem settled_of_child {inner : TreeNode} (settled : inner.Settled origin)
    (own : node.Chosen origin) (only : node.children = [inner]) : node.Settled origin := by
  refine settled_of_children own ?_
  rw [only]
  exact allSettled_cons.mpr ⟨settled, allSettled_nil⟩

end

namespace Parse

variable {Value Result : Type} {origin : Cursor} {before middle after bound : Nat} {nested : Nested}

/-- With at most `before` tokens left, the parser leaves at most `after` of them, and what it finds
is as wanted. -/
def Chooses (origin : Cursor) (before after : Nat) (parser : Parser Value)
    (wanted : Value → Prop) : Prop :=
  ∀ cursor : Cursor, cursor.Follows origin → cursor.position ≤ before →
    Ensures cursor parser fun value later =>
      later.Follows origin ∧ later.position ≤ after ∧ wanted value

/-- A parser that agrees with itself comes no further than it should. -/
theorem Agree.follows {parser : Parser Value}
    (agree : Agree origin .always before after parser parser) :
    ∀ cursor : Cursor, cursor.Follows origin → cursor.position ≤ before →
      Ensures cursor parser fun _ later => later.Follows origin ∧ later.position ≤ after := by
  intro cursor follows least value later run
  obtain ⟨outcome, place, _, found, _, valid, fewer⟩ :=
    agree cursor cursor.rejected ⟨follows, nofun⟩ least
  obtain ⟨rfl, rfl⟩ := Prod.mk.inj (run.symm.trans found)
  exact ⟨valid.follows, fewer value rfl⟩

/-- What has no nodes of interest goes before. -/
theorem Agree.leads {parser : Parser Value} {next : Value → Parser Result}
    {wanted : Result → Prop} (agree : Agree origin .always before middle parser parser)
    (rest : ∀ value, Chooses origin middle after (next value) wanted) :
    Chooses origin before after (parser >>= next) wanted := by
  intro cursor follows least
  rw [ensures_bind]
  refine (agree.follows cursor follows least).mono ?_
  intro value later reached
  exact rest value later reached.1 reached.2

namespace Chooses

variable {wanted : Value → Prop} {further : Result → Prop} {parser : Parser Value}

theorem mono {fewer more : Nat} (chooses : Chooses origin before after parser wanted)
    (fewerBefore : fewer ≤ before) (moreAfter : after ≤ more) :
    Chooses origin fewer more parser wanted := by
  intro cursor follows least
  refine (chooses cursor follows (Nat.le_trans least fewerBefore)).mono ?_
  intro value later reached
  exact ⟨reached.1, Nat.le_trans reached.2.1 moreAfter, reached.2.2⟩

theorem here (chooses : Chooses origin (bound + 1) bound parser wanted) :
    Chooses origin bound bound parser wanted := chooses.mono (Nat.le_succ bound) (Nat.le_refl bound)

theorem wide (chooses : Chooses origin before bound parser wanted) :
    Chooses origin before (bound + 1) parser wanted :=
  chooses.mono (Nat.le_refl before) (Nat.le_succ bound)

theorem bind {next : Value → Parser Result} (first : Chooses origin before middle parser wanted)
    (rest : ∀ value, wanted value → Chooses origin middle after (next value) further) :
    Chooses origin before after (parser >>= next) further := by
  intro cursor follows least
  rw [ensures_bind]
  refine (first cursor follows least).mono ?_
  intro value later reached
  exact rest value reached.2.2 later reached.1 reached.2.1

end Chooses

theorem chooses_pure {value : Value} {wanted : Value → Prop} (found : wanted value) :
    Chooses origin bound bound (pure value) wanted := by
  intro cursor follows least
  exact ensures_pure.mpr ⟨follows, least, found⟩

/-- A node is kept if it is chosen and what lies right below it is settled. -/
theorem chooses_node {value : Value} {kind : Value → TreeNode}
    (own : (kind value).Chosen origin) (below : AllSettled origin (kind value).children) :
    Chooses origin bound bound (pure value) (Kept origin kind) :=
  chooses_pure (settled_of_children own below)

theorem chooses_fail {expected : Expected} {wanted : Value → Prop} :
    Chooses origin before after (fail expected) wanted := fun _ _ _ => ensures_fail

theorem chooses_ite {condition : Prop} [Decidable condition] {first second : Parser Value}
    {wanted : Value → Prop} (holds : condition → Chooses origin before after first wanted)
    (fails : ¬ condition → Chooses origin before after second wanted) :
    Chooses origin before after (if condition then first else second) wanted := by
  split
  case isTrue found => exact holds found
  case isFalse missing => exact fails missing

/-- The nested parsers settle what they find, with at most so many tokens left; a statement is
settled by a token that may follow its last order item. -/
structure Nested.Chooses (origin : Cursor) (bound : Nat) (nested : Nested) : Prop where
  ends : origin.Ends
  deep : ∃ depth, bound ≤ depth ∧ nested = Parse.nested .always depth
  agree : Nested.Agree origin .always bound nested nested
  expr (minimum : Nat) :
    Parse.Chooses origin bound bound (nested.expr minimum) (Kept origin .expr)
  predicate : Parse.Chooses origin bound bound nested.predicate (Kept origin .predicate)
  bitExpr (minimum : Nat) :
    Parse.Chooses origin bound bound (nested.bitExpr minimum) (Kept origin .bitExpr)
  simpleExpr : Parse.Chooses origin bound bound nested.simpleExpr (Kept origin .simpleExpr)
  select (cursor : Cursor) : cursor.Follows origin → cursor.position ≤ bound →
    Ensures cursor nested.select fun node later =>
      endsSelect later.current.kind → Kept origin .select node

theorem Nested.Chooses.sound (inner : nested.Chooses origin bound) : nested.Sound := by
  obtain ⟨depth, _, rfl⟩ := inner.deep
  exact nested_sound .always depth

/-- Tokens that are read are a stretch of those in which the cursor lies. -/
theorem infix_of_reads {cursor later : Cursor} {tokens : List Token} (follows : cursor.Follows origin)
    (reads : cursor.Reads tokens later) : tokens <:+: origin.unread := by
  obtain ⟨earlier, before⟩ := follows
  refine ⟨earlier, later.unread, ?_⟩
  rw [before.unread, reads.unread, List.append_assoc]

/-! ### Lists and calls -/

theorem subquery_chooses (inner : nested.Chooses origin bound) :
    Chooses origin (bound + 1) bound (subquery nested) (Kept origin .subquery) := by
  refine agree_offset.leads fun start => (agree_expectKind _).leads fun opening => ?_
  intro cursor follows least
  simp only [ensures_bind, ensures_expectSymbol, ensures_spanFrom, ensures_pure]
  intro query later run closes
  obtain ⟨followsLater, leastLater⟩ :=
    inner.agree.select.follows cursor follows least query later run
  have settled := inner.select cursor follows least query later run (by rw [closes]; rfl)
  refine ⟨followsLater.advance, ?_, ?_⟩
  · rw [advance_position]
    omega
  · exact settled_of_children trivial (by simp [settled])

theorem commaListUpTo_chooses {Item : Type} {item : Parser Item} {kind : Item → TreeNode}
    (each : Chooses origin bound bound item (Kept origin kind)) (rounds : Nat) :
    Chooses origin bound bound (commaListUpTo item rounds) (KeptAll origin kind) := by
  induction rounds with
  | zero => exact each.bind fun node chosen => chooses_pure (keptAll_single chosen)
  | succ rounds ih =>
      refine each.bind fun node chosen => (agree_atKind _).leads fun further => ?_
      refine chooses_ite (fun _ => ?_) fun _ => chooses_pure (keptAll_single chosen)
      refine agree_advance.here.leads fun _ => ih.bind fun others more => ?_
      exact chooses_pure (keptAll_cons chosen more)

theorem exprList_chooses (inner : nested.Chooses origin bound) :
    Chooses origin bound bound (exprList nested) (KeptAll origin .expr) :=
  agree_remaining.leads fun rounds => commaListUpTo_chooses (inner.expr 0) rounds

theorem argumentsUpTo_chooses (inner : nested.Chooses origin bound) (rounds : Nat) :
    Chooses origin bound bound (argumentsUpTo nested rounds) (KeptAll origin .argument) := by
  have argument {node : Expr} (kept : Kept origin .expr node) :
      Kept origin .argument (.expr node) := settled_of_child kept trivial rfl
  induction rounds with
  | zero =>
      refine (inner.expr 0).bind fun node chosen => ?_
      exact chooses_pure (keptAll_single (argument chosen))
  | succ rounds ih =>
      refine (inner.expr 0).bind fun node chosen => (agree_atKind _).leads fun further => ?_
      refine chooses_ite (fun _ => ?_) fun _ => chooses_pure (keptAll_single (argument chosen))
      refine agree_terminal.here.leads fun comma => ih.bind fun others more => ?_
      have separator : Kept origin .argument (.comma comma) :=
        settled_of_child settled_leaf trivial rfl
      exact chooses_pure (keptAll_cons (argument chosen) (keptAll_cons separator more))

theorem aggregationArguments_chooses (inner : nested.Chooses origin bound) :
    Chooses origin bound bound (aggregationArguments nested) (KeptAll origin .argument) := by
  refine (agree_atKind _).leads fun all => chooses_ite (fun _ => ?_) fun _ => ?_
  · refine agree_terminal.here.leads fun star => chooses_pure (keptAll_single ?_)
    exact settled_of_child settled_leaf trivial rfl
  · refine (agree_atKind _).leads fun none => ?_
    refine chooses_ite (fun _ => chooses_pure allSettled_nil) fun _ => ?_
    exact agree_remaining.leads fun rounds => argumentsUpTo_chooses inner rounds

theorem aggregationCall_chooses (inner : nested.Chooses origin bound) :
    Chooses origin (bound + 1) bound (aggregationCall nested) (Kept origin .aggregation) := by
  refine agree_offset.leads fun start => agree_terminal.leads fun name => ?_
  refine (agree_expectKind _).here.leads fun opening => (keyword_agree _).leads fun distinct => ?_
  refine (aggregationArguments_chooses inner).bind fun arguments chosen => ?_
  refine (agree_expectKind _).here.leads fun closing => (agree_spanFrom start).leads fun span => ?_
  exact chooses_node trivial (by simp [chosen])

theorem castCall_chooses (inner : nested.Chooses origin bound) :
    Chooses origin (bound + 1) bound (castCall nested) (Kept origin .cast) := by
  refine agree_offset.leads fun start => agree_advance.leads fun _ => ?_
  refine (agree_expectKind _).here.leads fun opening => (inner.expr 0).bind fun operand chosen => ?_
  refine (agree_expectKeyword _).here.leads fun word => dataType_agree.leads fun target => ?_
  refine (agree_expectKind _).here.leads fun closing => (agree_spanFrom start).leads fun span => ?_
  exact chooses_node trivial (by simp [chosen])

theorem argumentAfter_chooses (inner : nested.Chooses origin bound) (word : Keyword) :
    Chooses origin bound bound (argumentAfter? nested word) (KeptIn origin .expr) := by
  refine (agree_atKind _).leads fun worded => (agree_atKind _).leads fun separated => ?_
  refine chooses_ite (fun _ => ?_) fun _ => chooses_pure keptIn_none
  refine agree_advance.here.leads fun _ => (inner.expr 0).bind fun node chosen => ?_
  exact chooses_pure (keptIn_some chosen)

theorem substringCall_chooses (inner : nested.Chooses origin bound) :
    Chooses origin (bound + 1) bound (substringCall nested) (Kept origin .special) := by
  refine agree_offset.leads fun start => agree_advance.leads fun _ => ?_
  refine (agree_expectKind _).here.leads fun opening => (inner.expr 0).bind fun first chosen => ?_
  refine (argumentAfter_chooses inner _).bind fun second chosenSecond => ?_
  have closes (third : Option Expr) (chosenThird : KeptIn origin .expr third) :
      Chooses origin bound bound
        (do let _ ← expectSymbol .rightParen; let span ← spanFrom start
            return SpecialCall.substring span (first :: second.toList ++ third.toList))
        (Kept origin .special) := by
    refine (agree_expectKind _).here.leads fun _ => (agree_spanFrom start).leads fun span => ?_
    exact chooses_node trivial (by simp [chosen, chosenSecond, chosenThird])
  have nothing : Chooses origin bound bound (pure none) (KeptIn origin .expr) :=
    chooses_pure keptIn_none
  refine chooses_ite (fun _ => ?_) fun _ => nothing.bind closes
  exact (argumentAfter_chooses inner _).bind closes

theorem extractCall_chooses (inner : nested.Chooses origin bound) :
    Chooses origin (bound + 1) bound (extractCall nested) (Kept origin .special) := by
  refine agree_offset.leads fun start => agree_advance.leads fun _ => ?_
  refine (agree_expectKind _).here.leads fun opening => identifier_agree.leads fun field => ?_
  refine (agree_expectKeyword _).here.leads fun word => (inner.expr 0).bind fun source chosen => ?_
  refine (agree_expectKind _).here.leads fun closing => (agree_spanFrom start).leads fun span => ?_
  exact chooses_node trivial (by simp [chosen])

theorem trimmed_chooses (inner : nested.Chooses origin bound) :
    Chooses origin bound bound (trimmed? nested) (KeptIn origin .expr) := by
  refine (agree_kindAhead 0).leads fun kind => ?_
  split
  · exact chooses_pure keptIn_none
  · exact chooses_pure keptIn_none
  · exact (inner.expr 0).bind fun node chosen => chooses_pure (keptIn_some chosen)

theorem trimSource_chooses (inner : nested.Chooses origin bound) :
    Chooses origin bound bound (trimSource? nested) (KeptIn origin .expr) := by
  refine (agree_atKind _).leads fun led => ?_
  refine chooses_ite (fun _ => ?_) fun _ => chooses_pure keptIn_none
  refine agree_advance.here.leads fun _ => (inner.expr 0).bind fun node chosen => ?_
  exact chooses_pure (keptIn_some chosen)

theorem trimCall_chooses (inner : nested.Chooses origin bound) :
    Chooses origin (bound + 1) bound (trimCall nested) (Kept origin .special) := by
  refine agree_offset.leads fun start => agree_advance.leads fun _ => ?_
  refine (agree_expectKind _).here.leads fun opening => skipTrimSide_agree.leads fun _ => ?_
  refine (trimmed_chooses inner).bind fun trimmed chosen => ?_
  refine (trimSource_chooses inner).bind fun source chosenSource => ?_
  refine (agree_expectKind _).here.leads fun closing => (agree_spanFrom start).leads fun span => ?_
  exact chooses_node trivial (by simp [chosen, chosenSource])

theorem regularArguments_chooses (inner : nested.Chooses origin bound) :
    Chooses origin bound bound (regularArguments nested) fun arguments =>
      KeptAll origin .expr arguments.1 := by
  refine (agree_atKind _).leads fun all => chooses_ite (fun _ => ?_) fun _ => ?_
  · exact agree_terminal.here.leads fun star => chooses_pure allSettled_nil
  · refine (agree_atKind _).leads fun none => ?_
    refine chooses_ite (fun _ => chooses_pure allSettled_nil) fun _ => ?_
    exact (exprList_chooses inner).bind fun arguments chosen => chooses_pure chosen

theorem regularCall_chooses (inner : nested.Chooses origin bound) :
    Chooses origin (bound + 1) bound (regularCall nested) (KeptBelow origin .regular) := by
  refine agree_offset.leads fun start => identifier_agree.leads fun name => ?_
  refine (agree_expectKind _).leads fun opening => ?_
  refine (regularArguments_chooses inner).bind fun arguments chosen => ?_
  refine (agree_expectKind _).here.leads fun closing => (agree_spanFrom start).leads fun span => ?_
  exact chooses_pure (by simp [KeptBelow, chosen])

/-! ### Simple expressions -/

theorem existence_chooses (inner : nested.Chooses origin bound) :
    Chooses origin (bound + 1) (bound + 1) (existence nested) (KeptBelow origin .simpleExpr) := by
  refine agree_offset.leads fun start => agree_terminal.here.leads fun word => ?_
  refine (subquery_chooses inner).wide.bind fun query chosen => ?_
  refine (agree_spanFrom start).leads fun span => ?_
  exact chooses_pure (by simp [KeptBelow, chosen])

theorem bareSubquery_chooses (inner : nested.Chooses origin bound) :
    Chooses origin (bound + 1) (bound + 1) (bareSubquery nested) (KeptBelow origin .simpleExpr) := by
  refine (subquery_chooses inner).wide.bind fun query chosen => ?_
  exact chooses_pure (by simp [KeptBelow, chosen])

theorem row_chooses (inner : nested.Chooses origin bound) :
    Chooses origin (bound + 1) bound (row nested) (KeptBelow origin .simpleExpr) := by
  refine agree_offset.leads fun start => agree_advance.leads fun _ => ?_
  refine (exprList_chooses inner).bind fun items chosen => ?_
  refine (agree_expectKind _).here.leads fun closing => (agree_spanFrom start).leads fun span => ?_
  exact chooses_pure (by simp [KeptBelow, chosen])

theorem caseBranch_chooses (inner : nested.Chooses origin bound) :
    Chooses origin bound bound (caseBranch nested) (Kept origin .caseBranch) := by
  refine agree_offset.leads fun start => agree_advance.here.leads fun _ => ?_
  refine (inner.expr 0).bind fun condition chosen => ?_
  refine (agree_expectKeyword _).here.leads fun word => ?_
  refine (inner.expr 0).bind fun result chosenResult => (agree_spanFrom start).leads fun span => ?_
  exact chooses_node trivial (by simp [chosen, chosenResult])

theorem caseBranchesUpTo_chooses (inner : nested.Chooses origin bound) (rounds : Nat) :
    Chooses origin bound bound (caseBranchesUpTo nested rounds) (KeptAll origin .caseBranch) := by
  induction rounds with
  | zero => exact chooses_pure allSettled_nil
  | succ rounds ih =>
      refine (agree_atKind _).leads fun found => ?_
      refine chooses_ite (fun _ => ?_) fun _ => chooses_pure allSettled_nil
      refine (caseBranch_chooses inner).bind fun branch chosen => ih.bind fun others more => ?_
      exact chooses_pure (allSettled_cons.mpr ⟨chosen, more⟩)

theorem caseOperand_chooses (inner : nested.Chooses origin bound) :
    Chooses origin bound bound (caseOperand? nested) (KeptIn origin .simpleExpr) := by
  refine (agree_atKind _).leads fun absent => ?_
  refine chooses_ite (fun _ => chooses_pure keptIn_none) fun _ => ?_
  exact inner.simpleExpr.bind fun operand chosen => chooses_pure (keptIn_some chosen)

theorem otherwise_chooses (inner : nested.Chooses origin bound) :
    Chooses origin bound bound (otherwise? nested) (KeptIn origin .expr) := by
  refine (agree_atKind _).leads fun led => ?_
  refine chooses_ite (fun _ => ?_) fun _ => chooses_pure keptIn_none
  refine agree_advance.here.leads fun _ => (inner.expr 0).bind fun result chosen => ?_
  exact chooses_pure (keptIn_some chosen)

theorem caseExpr_chooses (inner : nested.Chooses origin bound) :
    Chooses origin (bound + 1) bound (caseExpr nested) (KeptBelow origin .simpleExpr) := by
  refine agree_offset.leads fun start => agree_advance.leads fun _ => ?_
  refine (caseOperand_chooses inner).bind fun operand chosen => ?_
  refine agree_remaining.leads fun rounds => ?_
  refine (caseBranchesUpTo_chooses inner rounds).bind fun branches chosenBranches => ?_
  refine chooses_ite (fun _ => chooses_fail) fun _ => ?_
  refine (otherwise_chooses inner).bind fun otherwise chosenOtherwise => ?_
  refine (agree_expectKeyword _).here.leads fun closing => ?_
  refine (agree_spanFrom start).leads fun span => ?_
  exact chooses_pure
    (by simp [KeptBelow, chosen, chosenBranches, chosenOtherwise])

theorem unary_chooses (inner : nested.Chooses origin bound) :
    Chooses origin (bound + 1) bound (unary nested) (KeptBelow origin .simpleExpr) := by
  refine agree_offset.leads fun start => agree_terminal.leads fun operator => ?_
  refine inner.simpleExpr.bind fun operand chosen => (agree_spanFrom start).leads fun span => ?_
  exact chooses_pure (by simp [KeptBelow, chosen])

/-- A call is kept with the one slot of it that is filled. -/
theorem kept_call {call : FunctionCall} (below : AllSettled origin (TreeNode.call call).children) :
    KeptBelow origin .simpleExpr (.call call) := by
  have settled : (TreeNode.call call).Settled origin := settled_of_children trivial below
  exact allSettled_cons.mpr ⟨settled, allSettled_nil⟩

/-- A call whose name is not that of an aggregate is kept as a regular one. -/
theorem regular_chooses (inner : nested.Chooses origin bound) {cursor : Cursor}
    (follows : cursor.Follows origin) (least : cursor.position ≤ bound + 1)
    (other : namesAggregate cursor.current = false) :
    Ensures cursor (regularCall nested) fun call later =>
      later.Follows origin ∧ later.position ≤ bound ∧ Kept origin .regular call := by
  intro call later run
  obtain ⟨reached, fewer, below⟩ := regularCall_chooses inner cursor follows least call later run
  obtain ⟨tokens, reads, derived⟩ :=
    regularCall_finds inner.sound (follows.ends inner.ends) call later run
  refine ⟨reached, fewer, settled_of_children ?_ below⟩
  have current := reads.current (derived.nonempty rfl)
  have infixed := infix_of_reads follows reads
  cases derived with
  | regular =>
      obtain rfl := Option.some.inj current
      exact ⟨cursor.current, infixed.subset List.mem_cons_self, rfl, other⟩

theorem nameOrCall_chooses (inner : nested.Chooses origin bound) :
    Chooses origin (bound + 1) (bound + 1) (nameOrCall nested) (KeptBelow origin .simpleExpr) := by
  intro cursor follows least
  simp only [nameOrCall, aggregation, regular, ensures_bind, ensures_current, ensures_kindAhead]
  split
  · split
    · have call : Chooses origin (bound + 1) (bound + 1) (aggregation nested)
          (KeptBelow origin .simpleExpr) :=
        (aggregationCall_chooses inner).wide.bind fun call chosen =>
          chooses_pure (kept_call (by simp [chosen]))
      exact call cursor follows least
    case isFalse other =>
      rw [ensures_bind]
      refine (regular_chooses inner follows least (Bool.eq_false_iff.mpr other)).mono ?_
      intro call later found
      refine ensures_pure.mpr ⟨found.1, Nat.le_succ_of_le found.2.1, kept_call ?_⟩
      simp [found.2.2]
  · have column : Chooses origin (bound + 1) (bound + 1)
        (do let name ← qualifiedName; return SimpleExpr.column name)
        (KeptBelow origin .simpleExpr) :=
      qualifiedName_agree.leads fun name => chooses_pure (by simp [KeptBelow])
    exact column cursor follows least

/-- A function with a form of its own is kept as a simple expression. -/
theorem kept_special {call : SpecialCall} (kept : Kept origin .special call) :
    KeptBelow origin .simpleExpr (special call) := kept_call (by simp [kept])

theorem specialCall_chooses (inner : nested.Chooses origin bound) (word : Keyword) :
    Chooses origin (bound + 1) (bound + 1) (specialCall nested word) (KeptBelow origin .simpleExpr) := by
  refine (agree_kindAhead 1).leads fun following => chooses_ite (fun _ => ?_) fun _ => chooses_fail
  split
  · refine (castCall_chooses inner).wide.bind fun call chosen => chooses_pure (kept_special ?_)
    exact settled_of_child chosen trivial rfl
  · exact (substringCall_chooses inner).wide.bind fun call chosen =>
      chooses_pure (kept_special chosen)
  · exact (extractCall_chooses inner).wide.bind fun call chosen =>
      chooses_pure (kept_special chosen)
  · exact (trimCall_chooses inner).wide.bind fun call chosen => chooses_pure (kept_special chosen)

theorem parenthesis_chooses (inner : nested.Chooses origin bound) :
    Chooses origin (bound + 1) (bound + 1) (parenthesis nested) (KeptBelow origin .simpleExpr) := by
  refine (agree_kindAhead 1).leads fun following => ?_
  exact chooses_ite (fun _ => bareSubquery_chooses inner) fun _ => (row_chooses inner).wide

theorem minus_chooses (inner : nested.Chooses origin bound) :
    Chooses origin (bound + 1) (bound + 1) (minus nested) (KeptBelow origin .simpleExpr) := by
  refine (agree_kindAhead 1).leads fun following => ?_
  refine chooses_ite (fun _ => ?_) fun _ => (unary_chooses inner).wide
  refine agree_offset.leads fun start => agree_advance.here.leads fun _ => ?_
  refine agree_advance.here.leads fun _ => (agree_spanFrom start).leads fun span => ?_
  exact chooses_pure (by simp [KeptBelow])

theorem literal_chooses : Chooses origin bound bound literal (KeptBelow origin .simpleExpr) := by
  refine (agree_kindAhead 0).leads fun kind => agree_terminal.here.leads fun span => ?_
  exact chooses_pure (by simp [KeptBelow])

theorem marker_chooses : Chooses origin bound bound marker (KeptBelow origin .simpleExpr) :=
  agree_terminal.here.leads fun span => chooses_pure (by simp [KeptBelow])

theorem simpleExpr_keepsBelow (inner : nested.Chooses origin bound) :
    Chooses origin (bound + 1) (bound + 1) (simpleExpr nested) (KeptBelow origin .simpleExpr) := by
  refine (agree_kindAhead 0).leads fun kind => ?_
  split
  case h_1 => exact marker_chooses
  case h_2 => exact minus_chooses inner
  case h_3 => exact parenthesis_chooses inner
  -- signs
  iterate 4 exact (unary_chooses inner).wide
  -- literals
  iterate 7 exact literal_chooses
  case h_15 => exact existence_chooses inner
  case h_16 => exact (caseExpr_chooses inner).wide
  -- calls of functions with a grammar of their own
  iterate 4 exact specialCall_chooses inner _
  case h_21 => exact chooses_ite (fun _ => nameOrCall_chooses inner) fun _ => chooses_fail
  case h_22 => exact nameOrCall_chooses inner
  case h_23 => exact nameOrCall_chooses inner
  case h_24 => exact chooses_fail

theorem simpleExpr_chooses (inner : nested.Chooses origin bound) :
    Chooses origin (bound + 1) (bound + 1) (simpleExpr nested) (Kept origin .simpleExpr) := by
  intro cursor follows least node later run
  obtain ⟨reached, fewer, below⟩ := simpleExpr_keepsBelow inner cursor follows least node later run
  obtain ⟨tokens, reads, derived⟩ :=
    simpleExpr_finds inner.sound (follows.ends inner.ends) node later run
  have infixed := infix_of_reads follows reads
  exact ⟨reached, fewer, settled_of_children ⟨tokens, infixed, derived⟩ below⟩

/-! ### Bit expressions and predicates -/

theorem bitChain_chooses (inner : nested.Chooses origin bound) (start minimum rounds : Nat)
    (left : BitExpr) (chosen : AllSettled origin left.hanging) :
    Chooses origin (bound + 1) (bound + 1) (bitChain nested start minimum rounds left)
      fun node => AllSettled origin node.hanging := by
  induction rounds generalizing left with
  | zero => exact chooses_pure chosen
  | succ rounds ih =>
      refine (agree_kindAhead 0).leads fun kind => ?_
      split
      · exact chooses_pure chosen
      · refine chooses_ite (fun _ => chooses_pure chosen) fun _ => ?_
        refine agree_terminal.leads fun operator => ?_
        refine (inner.bitExpr _).wide.bind fun right chosenRight => ?_
        refine (agree_spanFrom start).leads fun span => ih _ ?_
        simp [BitExpr.hanging, chosen, chosenRight]

theorem bitExpr_chooses (inner : nested.Chooses origin bound) (minimum : Nat) :
    Chooses origin (bound + 1) (bound + 1) (bitExpr nested minimum) (Kept origin .bitExpr) := by
  have chain : Chooses origin (bound + 1) (bound + 1) (bitExpr nested minimum)
      fun node => AllSettled origin node.hanging := by
    refine agree_offset.leads fun start => (simpleExpr_chooses inner).bind fun left chosen => ?_
    refine agree_remaining.leads fun rounds => bitChain_chooses inner start minimum rounds _ ?_
    simp [BitExpr.hanging, chosen]
  intro cursor follows least node later run
  obtain ⟨reached, fewer, hanging⟩ := chain cursor follows least node later run
  obtain ⟨depth, deep, rfl⟩ := inner.deep
  refine ⟨reached, fewer, node.settled ?_ hanging⟩
  intro part member
  exact ⟨depth, minimum, cursor, node, later, follows, by omega, run, member⟩

theorem membership_chooses (inner : nested.Chooses origin bound) (start : Nat) {operand : BitExpr}
    (negation : Option Span) (chosen : Kept origin .bitExpr operand) :
    Chooses origin (bound + 1) (bound + 1) (membership nested start operand negation)
      (Kept origin .predicate) := by
  refine agree_advance.here.leads fun _ => (agree_atKind _).leads fun opened => ?_
  refine (agree_kindAhead 1).leads fun following => chooses_ite (fun _ => ?_) fun _ => ?_
  · refine (subquery_chooses inner).wide.bind fun query chosenQuery => ?_
    refine (agree_spanFrom start).leads fun span => ?_
    exact chooses_node trivial (by simp [chosen, chosenQuery])
  · refine (agree_expectKind _).leads fun opening => ?_
    refine (exprList_chooses inner).bind fun items chosenItems => ?_
    refine (agree_expectKind _).here.wide.leads fun closing => ?_
    refine (agree_spanFrom start).leads fun span => ?_
    exact chooses_node trivial (by simp [chosen, chosenItems])

theorem range_chooses (inner : nested.Chooses origin bound) (start : Nat) {operand : BitExpr}
    (negation : Option Span) (chosen : Kept origin .bitExpr operand) :
    Chooses origin (bound + 1) bound (range nested start operand negation)
      (Kept origin .predicate) := by
  refine agree_advance.leads fun _ => (inner.bitExpr 0).bind fun lower chosenLower => ?_
  refine (agree_expectKeyword _).here.leads fun word => ?_
  refine inner.predicate.bind fun upper chosenUpper => (agree_spanFrom start).leads fun span => ?_
  exact chooses_node trivial (by simp [chosen, chosenLower, chosenUpper])

theorem escape_chooses (inner : nested.Chooses origin bound) :
    Chooses origin bound bound (escape? nested) (KeptIn origin .simpleExpr) := by
  refine (agree_atKind _).leads fun led => ?_
  refine chooses_ite (fun _ => ?_) fun _ => chooses_pure keptIn_none
  refine agree_advance.here.leads fun _ => ?_
  exact inner.simpleExpr.bind fun escape chosen => chooses_pure (keptIn_some chosen)

theorem pattern_chooses (inner : nested.Chooses origin bound) (start : Nat) {operand : BitExpr}
    (negation : Option Span) (chosen : Kept origin .bitExpr operand) :
    Chooses origin (bound + 1) bound (pattern nested start operand negation)
      (Kept origin .predicate) := by
  refine agree_advance.leads fun _ => inner.simpleExpr.bind fun text chosenText => ?_
  refine (escape_chooses inner).bind fun escape chosenEscape => ?_
  refine (agree_spanFrom start).leads fun span => ?_
  exact chooses_node trivial (by simp [chosen, chosenText, chosenEscape])

theorem predicate_chooses (inner : nested.Chooses origin bound) :
    Chooses origin (bound + 1) (bound + 1) (predicate nested) (Kept origin .predicate) := by
  refine agree_offset.leads fun start => (bitExpr_chooses inner 0).bind fun operand chosen => ?_
  refine predicateNegation_agree.leads fun negation => (agree_kindAhead 0).leads fun kind => ?_
  split
  · exact membership_chooses inner start negation chosen
  · exact (range_chooses inner start negation chosen).wide
  · exact (pattern_chooses inner start negation chosen).wide
  · exact chooses_pure (settled_of_child chosen trivial rfl)

/-! ### Comparisons -/

theorem truthTest_chooses (start : Nat) {operand : BooleanPrimary}
    (chosen : Kept origin .primary operand) :
    Chooses origin bound bound (truthTest start operand) (Kept origin .primary) := by
  refine agree_advance.here.leads fun _ => (keyword_agree _).leads fun negation => ?_
  refine (agree_kindAhead 0).leads fun kind => ?_
  split
  all_goals first
    | exact chooses_fail
    | refine agree_terminal.here.leads fun value => (agree_spanFrom start).leads fun span => ?_
      exact chooses_node trivial (by simp [chosen])

theorem comparison_chooses (inner : nested.Chooses origin bound) (start : Nat)
    {left : BooleanPrimary} (chosen : Kept origin .primary left) :
    Chooses origin (bound + 1) (bound + 1) (comparison nested start left)
      (Kept origin .primary) := by
  refine agree_terminal.leads fun operator => (agree_kindAhead 0).leads fun kind => ?_
  have quantified : Chooses origin bound (bound + 1)
      (do let quantifier ← terminal; let query ← subquery nested; let span ← spanFrom start
          return BooleanPrimary.quantified span left operator quantifier query)
      (Kept origin .primary) := by
    refine agree_terminal.here.leads fun quantifier => ?_
    refine (subquery_chooses inner).here.bind fun query chosenQuery => ?_
    refine (agree_spanFrom start).leads fun span => Chooses.wide ?_
    exact chooses_node trivial (by simp [chosen, chosenQuery])
  split
  · exact quantified
  · exact quantified
  · exact quantified
  · refine inner.predicate.bind fun right chosenRight => ?_
    refine (agree_spanFrom start).leads fun span => Chooses.wide ?_
    exact chooses_node trivial (by simp [chosen, chosenRight])

theorem primaryChain_chooses (inner : nested.Chooses origin bound) (start rounds : Nat)
    (left : BooleanPrimary) (chosen : Kept origin .primary left) :
    Chooses origin (bound + 1) (bound + 1) (primaryChain nested start rounds left)
      (Kept origin .primary) := by
  induction rounds generalizing left with
  | zero => exact chooses_pure chosen
  | succ rounds ih =>
      refine (agree_kindAhead 0).leads fun kind => chooses_ite (fun _ => ?_) fun _ => ?_
      · exact (truthTest_chooses start chosen).bind ih
      · refine chooses_ite (fun _ => ?_) fun _ => chooses_pure chosen
        exact (comparison_chooses inner start chosen).bind ih

theorem booleanPrimary_chooses (inner : nested.Chooses origin bound) :
    Chooses origin (bound + 1) (bound + 1) (booleanPrimary nested) (Kept origin .primary) := by
  refine agree_offset.leads fun start => (predicate_chooses inner).bind fun left chosen => ?_
  refine agree_remaining.leads fun rounds => primaryChain_chooses inner start rounds _ ?_
  exact settled_of_child chosen trivial rfl

/-! ### Connectives -/

theorem primaryExpr_chooses (inner : nested.Chooses origin bound) :
    Chooses origin (bound + 1) (bound + 1) (primaryExpr nested)
      fun node => AllSettled origin node.hanging := by
  refine (booleanPrimary_chooses inner).bind fun primary chosen => chooses_pure ?_
  simp [Expr.hanging, chosen]

theorem negated_chooses (inner : nested.Chooses origin bound) :
    Chooses origin (bound + 1) bound (negated nested)
      fun node => AllSettled origin node.hanging := by
  refine agree_offset.leads fun start => agree_terminal.leads fun operator => ?_
  refine (inner.expr _).bind fun operand chosen => (agree_spanFrom start).leads fun span => ?_
  exact chooses_pure (by simp [Expr.hanging, chosen])

theorem enclosed_chooses (inner : nested.Chooses origin bound) :
    Chooses origin (bound + 1) bound (enclosed? nested)
      fun found => ∀ node ∈ found, AllSettled origin node.hanging := by
  refine agree_offset.leads fun start => agree_advance.leads fun _ => ?_
  refine (inner.expr 0).bind fun node chosen => (agree_atKind _).leads fun closed => ?_
  refine chooses_ite (fun _ => ?_) fun _ => chooses_pure nofun
  refine agree_advance.here.leads fun _ => (agree_kindAhead 0).leads fun following => ?_
  refine chooses_ite (fun _ => chooses_pure nofun) fun _ => ?_
  refine (agree_spanFrom start).leads fun span => chooses_pure ?_
  simp [Expr.hanging, chosen]

theorem parenthesised_chooses (inner : nested.Chooses origin bound) :
    Chooses origin (bound + 1) (bound + 1) (parenthesised? .always nested)
      fun found => ∀ node ∈ found, AllSettled origin node.hanging := by
  intro cursor follows least value later run
  rw [parenthesised_always] at run
  rcases tried : enclosed? nested cursor with ⟨error | found | found, place⟩
  · rw [tried] at run
    obtain ⟨⟨⟩, rfl⟩ := Prod.mk.inj run
    exact ⟨follows.giving _, least, nofun⟩
  · rw [tried] at run
    obtain ⟨⟨⟩, rfl⟩ := Prod.mk.inj run
    exact ⟨follows.giving _, least, nofun⟩
  · obtain ⟨reached, fewer, chosen⟩ := enclosed_chooses inner cursor follows least _ _ tried
    rw [tried] at run
    obtain ⟨⟨⟩, rfl⟩ := Prod.mk.inj run
    exact ⟨reached, Nat.le_succ_of_le fewer, chosen⟩

theorem operand_chooses (inner : nested.Chooses origin bound) :
    Chooses origin (bound + 1) (bound + 1) (operand .always nested)
      fun node => AllSettled origin node.hanging := by
  refine (agree_kindAhead 0).leads fun kind => ?_
  split
  · exact (negated_chooses inner).wide
  · exact (negated_chooses inner).wide
  · refine (agree_kindAhead 1).leads fun following => ?_
    refine chooses_ite (fun _ => primaryExpr_chooses inner) fun _ => ?_
    refine (parenthesised_chooses inner).bind fun found chosen => ?_
    cases found with
    | some node => exact chooses_pure (chosen node rfl)
    | none => exact primaryExpr_chooses inner
  · exact primaryExpr_chooses inner

theorem logicalChain_chooses (inner : nested.Chooses origin bound) (start minimum rounds : Nat)
    (left : Expr) (chosen : AllSettled origin left.hanging) :
    Chooses origin (bound + 1) (bound + 1) (logicalChain nested start minimum rounds left)
      fun node => AllSettled origin node.hanging := by
  induction rounds generalizing left with
  | zero => exact chooses_pure chosen
  | succ rounds ih =>
      refine (agree_kindAhead 0).leads fun kind => ?_
      split
      · exact chooses_pure chosen
      · refine chooses_ite (fun _ => chooses_pure chosen) fun _ => ?_
        refine agree_terminal.leads fun operator => ?_
        refine (inner.expr _).wide.bind fun right chosenRight => ?_
        refine (agree_spanFrom start).leads fun span => ?_
        refine chooses_ite (fun _ => ih _ ?_) fun _ => ih _ ?_
        · simp [Expr.hanging, chosen, chosenRight]
        · simp [Expr.hanging, chosen, chosenRight]

theorem expr_chooses (inner : nested.Chooses origin bound) (minimum : Nat) :
    Chooses origin (bound + 1) (bound + 1) (expr .always nested minimum) (Kept origin .expr) := by
  have chain : Chooses origin (bound + 1) (bound + 1) (expr .always nested minimum)
      fun node => AllSettled origin node.hanging := by
    refine agree_offset.leads fun start => (operand_chooses inner).bind fun left chosen => ?_
    exact agree_remaining.leads fun rounds =>
      logicalChain_chooses inner start minimum rounds _ chosen
  intro cursor follows least node later run
  obtain ⟨reached, fewer, hanging⟩ := chain cursor follows least node later run
  obtain ⟨depth, deep, rfl⟩ := inner.deep
  refine ⟨reached, fewer, node.settled ?_ hanging⟩
  intro part member
  exact ⟨depth, minimum, cursor, node, later, follows, by omega, run, member⟩

/-! ### Order items -/

section
variable {cursor : Cursor}

/-- The current token is one of those in which the cursor lies, unless they end there. -/
theorem current_mem (follows : cursor.Follows origin) (ends : cursor.Ends)
    (more : cursor.current.kind ≠ .endOfInput) : cursor.current ∈ origin.unread := by
  obtain ⟨tokens, reads⟩ := follows
  rw [reads.unread, (reads_advance ends more).unread]
  simp

/-- A name before a token that ends the item is taken as a column. -/
theorem orderColumn_takes {name : QualifiedName} {stretch : List Token} {later : Cursor}
    (derived : name.Derives stretch) (reads : cursor.Reads stretch later)
    (ending : Precedence.endsOrderItem later.current.kind) :
    ∃ column after, orderColumn? cursor = (.ok (some column), after) := by
  obtain ⟨token, rest, rfl⟩ := List.exists_cons_of_ne_nil derived.nonempty
  have named : token.kind.isName := by cases derived <;> assumption
  have accepted : Accepts cursor.position qualifiedName (token :: rest) Precedence.endsOrderItem :=
    (qualifiedName_accepts derived).narrow fun _ ends =>
      bne_iff_ne.mpr (endsExpr.undotted (endsExpr_of_endsOrderItem ends))
  have offers : cursor.Offers (token :: rest) Precedence.endsOrderItem := by
    have next := reads.ahead 0
    rw [Nat.add_zero] at next
    refine ⟨⟨later.unread, reads.unread⟩, ?_⟩
    rw [← next]
    exact ending
  obtain ⟨found, after, _, _, run, _, _, isSome, _⟩ :=
    orderColumn_taken named accepted cursor (Nat.le_refl _) offers
  obtain ⟨column, rfl⟩ := Option.isSome_iff_exists.mp isSome
  exact ⟨column, after, run⟩

/-- The target of an order item is as the look-ahead asks for, if a token follows that ends the
item. -/
theorem orderTarget_chooses (inner : nested.Chooses origin bound)
    (ends : cursor.Ends) (follows : cursor.Follows origin) (least : cursor.position ≤ bound) :
    Ensures cursor (orderTarget nested) fun target later =>
      KeptIn origin .expr target.2.2 ∧ ∃ stretch, cursor.Reads stretch later ∧
        (Precedence.endsOrderItem later.current.kind →
          OrderItem.Slots target.1 target.2.1 target.2.2 stretch) := by
  simp only [orderTarget, ensures_bind, ensures_kindAhead]
  split
  case isTrue number =>
    simp only [Bool.and_eq_true, decide_eq_true_eq] at number
    simp only [ensures_bind, ensures_terminal, ensures_pure]
    exact ⟨keptIn_none, _, reads_advance_of_kind ends number.1 (by decide),
      fun _ => .number number.1⟩
  case isFalse other =>
    rw [ensures_bind]
    intro found middle run
    rcases orderColumn_ensures ends found middle run with
      ⟨rfl, readsNothing⟩ | ⟨name, rfl, tokens, reads, derived⟩
    · obtain ⟨followsMiddle, leastMiddle⟩ :=
        orderColumn_agree.follows cursor follows least none middle run
      simp only [ensures_bind, ensures_pure]
      intro node later found
      obtain ⟨stretch, reads, derived⟩ :=
        inner.sound.expr 0 (readsNothing.ends ends) node later found
      obtain ⟨_, _, chosen⟩ := inner.expr 0 middle followsMiddle leastMiddle node later found
      have whole := readsNothing.trans reads
      refine ⟨keptIn_some chosen, stretch, whole, fun ending => .expr derived ?_ ?_⟩
      · rintro token rfl number
        -- The token would have been taken as a number.
        have current := Option.some.inj (whole.current (List.cons_ne_nil _ _))
        have next : later.current = cursor.ahead 1 := whole.ahead 0
        rw [next] at ending
        rw [current] at number
        simp only [Bool.and_eq_true, decide_eq_true_eq, not_and] at other
        exact other number ending
      · intro name named
        obtain ⟨column, after, taken⟩ := orderColumn_takes named whole ending
        rw [run] at taken
        cases taken
    · exact ensures_pure.mpr ⟨keptIn_none, tokens, reads, fun _ => .column derived⟩

theorem orderItem_chooses (inner : nested.Chooses origin bound)
    (ends : cursor.Ends) (follows : cursor.Follows origin) (least : cursor.position ≤ bound) :
    Ensures cursor (orderItem nested) fun item later =>
      Precedence.endsOrderItem later.current.kind → Kept origin .orderItem item := by
  simp only [orderItem, ensures_bind, ensures_offset, ensures_spanFrom, ensures_pure]
  intro target middle found directions later directed ending
  obtain ⟨chosen, stretch, readsTarget, slots⟩ :=
    orderTarget_chooses inner ends follows least target middle found
  have endsMiddle := readsTarget.ends ends
  obtain ⟨words, reads, word⟩ := direction_finds endsMiddle directions later directed
  have endingTarget : Precedence.endsOrderItem middle.current.kind := by
    generalize directions.1 = ascending, directions.2 = descending at word
    cases word with
    | absent =>
        rw [show later.current = middle.current from reads.ahead 0] at ending
        exact ending
    | ascending word | descending word =>
        rw [← Option.some.inj (reads.current (List.cons_ne_nil _ _)), word]
        rfl
  have slots := slots endingTarget
  have whole := readsTarget.trans reads
  rw [whole.spanFrom (List.append_ne_nil_of_left_ne_nil slots.nonempty _)]
  refine settled_of_children (.intro slots word (infix_of_reads follows whole)) ?_
  simp [chosen]

theorem orderItems_chooses (inner : nested.Chooses origin bound)
    (rounds : Nat) (ends : cursor.Ends) (follows : cursor.Follows origin)
    (least : cursor.position ≤ bound) :
    Ensures cursor (commaListUpTo (orderItem nested) rounds) fun items later =>
      Precedence.endsOrderItem later.current.kind → KeptAll origin .orderItem items := by
  induction rounds generalizing cursor with
  | zero =>
      simp only [commaListUpTo, ensures_bind, ensures_pure]
      intro item later found ending
      exact keptAll_single (orderItem_chooses inner ends follows least item later found ending)
  | succ rounds ih =>
      simp only [commaListUpTo, ensures_bind, ensures_atSymbol]
      intro item middle found
      have chosen := orderItem_chooses inner ends follows least item middle found
      split
      case isTrue comma =>
        obtain ⟨_, reads, _⟩ := orderItem_finds inner.sound ends item middle found
        obtain ⟨followsMiddle, leastMiddle⟩ :=
          (orderItem_agree inner.agree).follows cursor follows least item middle found
        rw [beq_iff_eq] at comma
        have endsMiddle := reads.ends ends
        have readsComma := reads_advance_of_kind endsMiddle comma (by decide)
        simp only [ensures_bind, ensures_advance, ensures_pure]
        intro others later rest ending
        have more := ih (readsComma.ends endsMiddle) followsMiddle.advance
          (by rw [advance_position]; omega) others later rest ending
        exact keptAll_cons (chosen (by rw [comma]; rfl)) more
      case isFalse =>
        exact ensures_pure.mpr fun ending => keptAll_single (chosen ending)

theorem orderClause_chooses (inner : nested.Chooses origin bound)
    (word : Keyword) (ends : cursor.Ends) (follows : cursor.Follows origin)
    (least : cursor.position ≤ bound) :
    Ensures cursor (orderClause? nested word) fun clause later =>
      (cursor.current.kind = .keyword word ∨ later = cursor) ∧
        (Precedence.endsOrderItem later.current.kind →
          KeptIn origin .orderClause clause) := by
  simp only [orderClause?, ensures_bind, ensures_atKeyword]
  split
  case isTrue opening =>
    rw [beq_iff_eq] at opening
    have readsWord := reads_advance_of_kind ends opening (by simp)
    simp only [ensures_bind, ensures_offset, ensures_advance, ensures_expectKeyword, commaList,
      ensures_remaining, ensures_spanFrom, ensures_pure]
    intro by_ items later found
    have readsBy := reads_advance_of_kind (readsWord.ends ends) by_ (by decide)
    refine ⟨.inl opening, fun ending => ?_⟩
    refine keptIn_some (settled_of_children trivial ?_)
    exact orderItems_chooses inner _ (readsBy.ends (readsWord.ends ends))
      follows.advance.advance (by rw [advance_position, advance_position]; omega) items later found
      ending
  case isFalse => exact ensures_pure.mpr ⟨.inr rfl, fun _ => keptIn_none⟩

/-! ### Clauses and statements -/

theorem conditionClause_chooses (inner : nested.Chooses origin bound) (word : Keyword) :
    Chooses origin bound bound (conditionClause? nested word) (KeptIn origin .condition) := by
  refine (agree_atKind _).leads fun found => ?_
  refine chooses_ite (fun _ => ?_) fun _ => chooses_pure keptIn_none
  refine agree_offset.leads fun start => agree_advance.here.leads fun _ => ?_
  refine (inner.expr 0).bind fun node chosen => (agree_spanFrom start).leads fun span => ?_
  exact chooses_pure (keptIn_some (settled_of_child chosen trivial rfl))

/-- A clause that is missing leaves the place as it is. -/
theorem conditionClause_stays (word : Keyword) :
    Ensures cursor (conditionClause? nested word) fun _ later =>
      cursor.current.kind = .keyword word ∨ later = cursor := by
  simp only [conditionClause?, ensures_bind, ensures_atKeyword]
  split
  case isTrue opening =>
    intro _ _ _
    exact .inl (beq_iff_eq.mp opening)
  case isFalse => exact ensures_pure.mpr (.inr rfl)

theorem selectItem_chooses (inner : nested.Chooses origin bound) :
    Chooses origin bound bound (selectItem nested) (Kept origin .selectItem) := by
  refine (agree_kindAhead 0).leads fun kind => (agree_kindAhead 1).leads fun following => ?_
  refine (agree_kindAhead 2).leads fun third => chooses_ite (fun _ => ?_) fun _ => ?_
  · exact agree_terminal.here.leads fun star => chooses_node trivial (by simp)
  refine chooses_ite (fun _ => ?_) fun _ => ?_
  · refine agree_offset.leads fun start => label_agree.leads fun owner => ?_
    refine agree_advance.here.leads fun _ => agree_advance.here.leads fun _ => ?_
    exact (agree_spanFrom start).leads fun span => chooses_node trivial (by simp)
  · refine agree_offset.leads fun start => (inner.expr 0).bind fun node chosen => ?_
    refine itemLabel_agree.leads fun itemLabel => (agree_spanFrom start).leads fun span => ?_
    exact chooses_node trivial (by simp [chosen])

theorem selectList_chooses (inner : nested.Chooses origin bound) :
    Chooses origin bound bound (selectList nested)
      (Kept origin .selectList) := by
  have items : Chooses origin bound bound (commaList (selectItem nested))
      (KeptAll origin .selectItem) :=
    agree_remaining.leads fun rounds => commaListUpTo_chooses (selectItem_chooses inner) rounds
  refine agree_offset.leads fun start => items.bind fun items chosen => ?_
  exact (agree_spanFrom start).leads fun span => chooses_node trivial chosen

/-- What is right below a statement is settled, if a token follows that may end it. -/
theorem select_chooses (inner : nested.Chooses origin bound)
    (ends : cursor.Ends) (follows : cursor.Follows origin) (least : cursor.position ≤ bound + 1) :
    Ensures cursor (select nested) fun node later =>
      Precedence.endsOrderItem later.current.kind →
        AllSettled origin (TreeNode.select node).children := by
  have agree := inner.agree
  simp only [select, ensures_bind, ensures_offset, ensures_expectKeyword, ensures_spanFrom,
    ensures_pure]
  intro word
  have readsWord := reads_advance_of_kind ends word (by decide)
  have ends := readsWord.ends ends
  have follows := follows.advance
  have least : cursor.advance.position ≤ bound := by
    rw [advance_position]
    omega
  intro distinct _ found
  obtain ⟨_, reads, _⟩ := distinct_finds ends distinct _ found
  have ends := reads.ends ends
  obtain ⟨follows, least⟩ := distinct_agree.follows _ follows least distinct _ found
  intro list _ found
  obtain ⟨_, reads, _⟩ := selectList_finds inner.sound ends list _ found
  have ends := reads.ends ends
  obtain ⟨follows, least, items⟩ := selectList_chooses inner _ follows least list _ found
  intro tables _ found
  obtain ⟨_, reads, _⟩ := tables_finds ends tables _ found
  have ends := reads.ends ends
  obtain ⟨follows, least⟩ := tables_agree.follows _ follows least tables _ found
  intro condition _ found
  obtain ⟨_, reads, _⟩ := conditionClause_finds inner.sound .WHERE ends condition _ found
  have ends := reads.ends ends
  obtain ⟨follows, least, condition⟩ :=
    conditionClause_chooses inner .WHERE _ follows least condition _ found
  intro grouping _ found
  obtain ⟨_, reads, _⟩ := orderClause_finds inner.sound .GROUP ends grouping _ found
  obtain ⟨_, grouping⟩ :=
    orderClause_chooses inner .GROUP ends follows least grouping _ found
  have ends := reads.ends ends
  obtain ⟨follows, least⟩ := (orderClause_agree agree .GROUP).follows _ follows least _ _ found
  intro having middle found
  obtain ⟨_, reads, _⟩ := conditionClause_finds inner.sound .HAVING ends having _ found
  have ends := reads.ends ends
  have stays := conditionClause_stays .HAVING having _ found
  obtain ⟨follows, least, having⟩ :=
    conditionClause_chooses inner .HAVING _ follows least having _ found
  intro ordering later found ending
  obtain ⟨staysLast, ordering⟩ :=
    orderClause_chooses inner .ORDER ends follows least ordering later found
  -- HAVING, ORDER and what ends the statement end an order item of GROUP BY alike.
  have endingHaving : Precedence.endsOrderItem middle.current.kind := by
    rcases staysLast with opening | rfl
    · rw [opening]
      rfl
    · exact ending
  have grouping := grouping (by
    rcases stays with opening | rfl
    · rw [opening]
      rfl
    · exact endingHaving)
  simp [items, condition, grouping, having, ordering ending]

end

/-! ### All depths -/

/-- A parser that fails where no token is left ensures anything there. -/
theorem ensures_atEnd {parser : Parser Value} {expected : Expected}
    {holds : Value → Cursor → Prop} (ends : origin.Ends)
    (fails : ∀ cursor, AtEnd cursor → parser cursor = fail expected cursor) (cursor : Cursor)
    (follows : cursor.Follows origin) (least : cursor.position ≤ 0) :
    Ensures cursor parser holds := by
  intro value later run
  have nothing := List.eq_nil_of_length_eq_zero (Nat.le_zero.mp least)
  rw [fails cursor ⟨follows.ends ends, nothing⟩] at run
  cases run

theorem nested_chooses (ends : origin.Ends) (bound : Nat) :
    ∀ depth, bound ≤ depth → (Parse.nested .always depth).Chooses origin bound := by
  induction bound with
  | zero =>
      intro depth deep
      have fails := nested_failsAtEnd .always depth
      exact ⟨ends, ⟨depth, deep, rfl⟩, nested_agree ends 0 depth depth deep deep,
        fun minimum => ensures_atEnd ends (fails.expr minimum), ensures_atEnd ends fails.predicate,
        fun minimum => ensures_atEnd ends (fails.bitExpr minimum),
        ensures_atEnd ends fails.simpleExpr, ensures_atEnd ends fails.select⟩
  | succ bound ih =>
      intro depth deep
      have agree : Nested.Agree origin .always (bound + 1) _ _ :=
        nested_agree ends (bound + 1) depth depth deep deep
      obtain ⟨depth, rfl⟩ := Nat.exists_eq_succ_of_ne_zero (Nat.ne_zero_of_lt deep)
      have inner := ih depth (by omega)
      refine ⟨ends, ⟨_, deep, rfl⟩, agree, expr_chooses inner, predicate_chooses inner,
        bitExpr_chooses inner, simpleExpr_chooses inner, ?_⟩
      intro cursor follows least node later run ending
      have chosen : node.Chosen origin := ⟨depth, cursor, later, follows, by omega, run, ending⟩
      refine settled_of_children chosen ?_
      exact select_chooses inner (follows.ends ends) follows least node later run
        (endsOrderItem_of_endsSelect ending)

/-- The statement is settled as the parser finds it at the first place. -/
theorem statementWith_chooses {cursor : Cursor} (ends : cursor.Ends) :
    Ensures cursor (statementWith .always) fun node _ => Kept cursor .select node := by
  have follows : cursor.Follows cursor := ⟨[], .refl cursor⟩
  simp only [statementWith, ensures_bind, ensures_remaining, ensures_atSymbol]
  intro node later run
  have settled (ending : endsSelect later.current.kind) : Kept cursor .select node := by
    have chosen : node.Chosen cursor := ⟨_, cursor, later, follows, Nat.le_succ _, run, ending⟩
    refine settled_of_children chosen ?_
    have inner := nested_chooses ends cursor.position cursor.position (Nat.le_refl _)
    exact select_chooses inner ends follows (Nat.le_succ _) node later
      run (endsOrderItem_of_endsSelect ending)
  split
  case isTrue semicolon =>
    have chosen := settled (by rw [beq_iff_eq.mp semicolon]; rfl)
    simp only [ensures_bind, ensures_advance, ensures_atKind]
    split
    · exact ensures_pure.mpr chosen
    · exact ensures_fail
  case isFalse =>
    simp only [ensures_bind, ensures_atKind]
    split
    case isTrue atEnd => exact ensures_pure.mpr (settled (by rw [beq_iff_eq.mp atEnd]; rfl))
    case isFalse => exact ensures_fail

end Parse

/-- The nodes of the tree of a source text are as the parser chooses them at their places. -/
theorem parse_chosen {source : Text} {tree : Select} (parsed : parse source = .ok tree)
    {node : TreeNode} (within : (TreeNode.select tree).Has node) :
    node.Chosen (Cursor.ofTokens (tokenize source)) := by
  obtain ⟨outcome, later, left, run, plainRun⟩ := Parse.statement_runs_alike source 0 []
  rw [parse, show Cursor.ofTokens (tokenize source) = Parse.afterStatements source 0 from rfl,
    run] at parsed
  obtain rfl : outcome = .ok tree := parsed
  exact Parse.statementWith_chooses (Cursor.ofTokens_ends source) tree _ plainRun node within

end AnnotatedSql.Grammar
