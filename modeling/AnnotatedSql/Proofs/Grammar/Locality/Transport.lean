/-
This file shows that what tokens derive moves with them.
-/

import AnnotatedSql.Proofs.Grammar.Locality.Relocation

namespace AnnotatedSql.Grammar

/-- Offsets are moved in their order, and the first of them stays. -/
structure Orderly (move : Nat → Nat) : Prop where
  monotone {first second : Nat} : first ≤ second → move first ≤ move second
  zero : move 0 = 0

variable {move : Nat → Nat} {tokens : List Token}

theorem Orderly.max (orderly : Orderly move) (first second : Nat) :
    move (max first second) = Nat.max (move first) (move second) := by
  rcases Nat.le_total first second with least | least
  · have moved := orderly.monotone least
    rw [Nat.max_eq_right least]
    exact (Nat.max_eq_right moved).symm
  · have moved := orderly.monotone least
    rw [Nat.max_eq_left least]
    exact (Nat.max_eq_left moved).symm

theorem startOf_relocate (orderly : Orderly move) (tokens : List Token) :
    startOf (tokens.map (Token.relocate move)) = move (startOf tokens) := by
  cases tokens with
  | nil => exact orderly.zero.symm
  | cons token rest => rfl

theorem stopOf_relocate (tokens : List Token) :
    stopOf? (tokens.map (Token.relocate move)) = (stopOf? tokens).map move := by
  rw [stopOf?, stopOf?, List.getLast?_map]
  cases tokens.getLast? <;> rfl

theorem cover_relocate (orderly : Orderly move) (tokens : List Token) :
    cover (tokens.map (Token.relocate move)) = (cover tokens).relocate move := by
  rw [cover, cover, startOf_relocate orderly, stopOf_relocate, Span.relocate]
  cases stopOf? tokens with
  | none => simp
  | some stop => simp [orderly.max]

/-- The node moved to other offsets. -/
def Node.relocate (move : Nat → Nat) : Node → Node
  | .expr node => .expr (node.relocate move)
  | .primary node => .primary (node.relocate move)
  | .predicate node => .predicate (node.relocate move)
  | .bitExpr node => .bitExpr (node.relocate move)
  | .simpleExpr node => .simpleExpr (node.relocate move)
  | .exprs nodes => .exprs (nodes.map (Expr.relocate move))
  | .expr? node => .expr? (node.map (Expr.relocate move))
  | .ledExpr word node => .ledExpr word (node.map (Expr.relocate move))
  | .separatedExpr word node => .separatedExpr word (node.map (Expr.relocate move))
  | .simpleExpr? node => .simpleExpr? (node.map (SimpleExpr.relocate move))
  | .escape node => .escape (node.map (SimpleExpr.relocate move))
  | .branches nodes => .branches (nodes.map (CaseBranch.relocate move))
  | .argumentChain nodes => .argumentChain (nodes.map (AggregationArgument.relocate move))
  | .arguments nodes => .arguments (nodes.map (AggregationArgument.relocate move))
  | .regularArguments nodes asterisk =>
      .regularArguments (nodes.map (Expr.relocate move)) (asterisk.map (Span.relocate move))
  | .aggregation node => .aggregation (node.relocate move)
  | .special node => .special (node.relocate move)
  | .regular node => .regular (node.relocate move)
  | .orderTarget column number inner =>
      .orderTarget (column.map (QualifiedName.relocate move)) (number.map (Span.relocate move))
        (inner.map (Expr.relocate move))
  | .orderItem node => .orderItem (node.relocate move)
  | .orderItems nodes => .orderItems (nodes.map (OrderItem.relocate move))
  | .ordering word clause => .ordering word (clause.map (OrderClause.relocate move))
  | .condition word clause => .condition word (clause.map (ConditionClause.relocate move))
  | .selectItem node => .selectItem (node.relocate move)
  | .selectItems nodes => .selectItems (nodes.map (SelectItem.relocate move))
  | .select node => .select (node.relocate move)
  | .subquery node => .subquery (node.relocate move)

/-! ### Phrases without expressions -/

@[simp] theorem relocate_kind (token : Token) : (token.relocate move).kind = token.kind := rfl

/-- The span of a moved token, from the left to the right of the rules. -/
theorem relocate_span (token : Token) :
    token.span.relocate move = (token.relocate move).span := rfl

theorem Identifier.relocate_ofToken (token : Token) :
    (ofToken token).relocate move = ofToken (token.relocate move) := by
  simp only [ofToken, relocate, relocate_kind, Option.map_map]
  rfl

theorem Label.relocate_ofToken (token : Token) :
    (ofToken token).relocate move = ofToken (token.relocate move) := by
  simp only [ofToken, relocate, Identifier.relocate_ofToken]
  rfl

section

-- Rules are matched token by token, so appended stretches stay as the rules write them.
attribute [local simp] relocate_span Identifier.relocate_ofToken Label.relocate_ofToken
  QualifiedName.relocate NameList.relocate Literal.relocate DataType.relocate Literal.empty
attribute [-simp] List.append_assoc List.cons_append

theorem Flag.relocate {word : Keyword} {found : Option Span} (flag : Flag word found tokens) :
    Flag word (found.map (Span.relocate move)) (tokens.map (Token.relocate move)) := by
  cases flag <;> simp <;> constructor
  assumption

theorem QualifiedName.Derives.relocate (orderly : Orderly move) {name : QualifiedName}
    (derived : name.Derives tokens) :
    (name.relocate move).Derives (tokens.map (Token.relocate move)) := by
  cases derived <;> simp [← cover_relocate orderly] <;> constructor
  all_goals assumption

theorem Literal.Derives.relocate (orderly : Orderly move) {literal : Literal}
    (derived : literal.Derives tokens) :
    (literal.relocate move).Derives (tokens.map (Token.relocate move)) := by
  cases derived with
  | @string token kind => exact @Derives.string (token.relocate move) kind
  | @number token kind => exact @Derives.number (token.relocate move) kind
  | negativeNumber sign number =>
      simp [← cover_relocate orderly]
      exact .negativeNumber sign number
  | @hexadecimal token kind => exact @Derives.hexadecimal (token.relocate move) kind
  | @bitValue token kind => exact @Derives.bitValue (token.relocate move) kind
  | @boolean token kind => exact @Derives.boolean (token.relocate move) kind
  | @null token kind => exact @Derives.null (token.relocate move) kind

theorem TypeLength.relocate (length : TypeLength tokens) :
    TypeLength (tokens.map (Token.relocate move)) := by
  cases length <;> constructor <;> assumption

theorem DataType.Derives.relocate (orderly : Orderly move) {target : DataType}
    (derived : target.Derives tokens) :
    (target.relocate move).Derives (tokens.map (Token.relocate move)) := by
  cases derived with
  | plain nonempty words =>
      simp [← cover_relocate orderly]
      exact .plain (by simpa using nonempty) (by simpa using words)
  | sized nonempty words length =>
      simp [← cover_relocate orderly]
      exact .sized (by simpa using nonempty) (by simpa using words) length.relocate

theorem ItemLabel.relocate {found : Option Label} (itemLabel : ItemLabel found tokens) :
    ItemLabel (found.map (Label.relocate move)) (tokens.map (Token.relocate move)) := by
  cases itemLabel <;> simp <;> constructor <;> assumption

theorem CommaList.relocate {Item : Type} {item : Item → List Token → Prop} {items : List Item}
    {change : Item → Item} (list : CommaList item items tokens)
    (each : ∀ one stretch, item one stretch →
      item (change one) (stretch.map (Token.relocate move))) :
    CommaList item (items.map change) (tokens.map (Token.relocate move)) := by
  induction list with
  | single first => exact .single (each _ _ first)
  | cons first comma _ ih =>
      rw [List.map_cons, List.map_append, List.map_cons]
      exact .cons (each _ _ first) comma ih

theorem Tables.relocate (orderly : Orderly move) {found : Option NameList}
    (tables : Tables found tokens) :
    Tables (found.map (NameList.relocate move)) (tokens.map (Token.relocate move)) := by
  cases tables with
  | absent => exact .absent
  | present word names =>
      simp [← cover_relocate orderly]
      exact .present word (names.relocate fun _ _ derived => derived.relocate orderly)

theorem DirectionWord.relocate {ascending descending : Option Span}
    (direction : DirectionWord ascending descending tokens) :
    DirectionWord (ascending.map (Span.relocate move)) (descending.map (Span.relocate move))
      (tokens.map (Token.relocate move)) := by
  cases direction <;> simp <;> constructor <;> assumption

theorem DistinctWord.relocate {distinct : Option Span} (word : DistinctWord distinct tokens) :
    DistinctWord (distinct.map (Span.relocate move)) (tokens.map (Token.relocate move)) := by
  cases word <;> simp <;> constructor <;> assumption

theorem TrimSide.relocate (side : TrimSide tokens) :
    TrimSide (tokens.map (Token.relocate move)) := by
  cases side <;> constructor
  assumption

/-! ### Phrases with expressions -/

attribute [local simp] Node.relocate Expr.relocate BooleanPrimary.relocate Predicate.relocate
  BitExpr.relocate SimpleExpr.relocate CaseBranch.relocate FunctionCall.relocate
  AggregationCall.relocate AggregationArgument.relocate SpecialCall.relocate CastCall.relocate
  RegularCall.relocate OrderItem.relocate OrderClause.relocate ConditionClause.relocate
  SelectItem.relocate SelectList.relocate Select.relocate Subquery.relocate

theorem Derives.relocate (orderly : Orderly move) {quantifiable : TokenKind → Bool} {node : Node}
    (derived : Derives quantifiable node tokens) :
    Derives quantifiable (node.relocate move) (tokens.map (Token.relocate move)) := by
  induction derived with
  | bareSubquery _ ih => simpa using Derives.bareSubquery ih
  | aggregationCall _ ih => simpa using Derives.aggregationCall ih
  | specialCall _ ih => simpa using Derives.specialCall ih
  | regularCall _ ih => simpa using Derives.regularCall ih
  | literal derived => exact .literal (derived.relocate orderly)
  | column derived => exact .column (derived.relocate orderly)
  | orderColumn derived => exact .orderColumn (derived.relocate orderly)
  | caseOf word _ _ nonempty _ closing operand branches otherwise =>
      simp [← cover_relocate orderly] at operand branches otherwise ⊢
      exact .caseOf word operand branches (by simpa using nonempty) otherwise closing
  | substring name opening _ _ _ needed closing first second third =>
      simp [← cover_relocate orderly, ← Option.toList_map] at first second third ⊢
      exact .substring name opening first second third (by simpa using needed) closing
  | trim name opening side _ _ closing first second =>
      simp [← cover_relocate orderly, ← Option.toList_map] at first second ⊢
      exact .trim name opening side.relocate first second closing
  | orderNumber derived found =>
      exact .orderNumber (derived.relocate orderly) (by simp [found])
  | cast name opening _ word target closing inner =>
      simp [← cover_relocate orderly] at inner ⊢
      exact .cast name opening inner word (target.relocate orderly) closing
  | orderItem _ direction target =>
      simp [← cover_relocate orderly] at target ⊢
      exact .orderItem target direction.relocate
  | exprItem _ itemLabel inner =>
      simp [← cover_relocate orderly] at inner ⊢
      exact .exprItem inner itemLabel.relocate
  | select word distinct _ tables _ _ _ _ items condition grouping having ordering =>
      simp [← cover_relocate orderly] at items condition grouping having ordering ⊢
      exact .select word distinct.relocate items (tables.relocate orderly) condition grouping having
        ordering
  | _ =>
      simp [← cover_relocate orderly] at *
      constructor
      all_goals first | assumption | exact Flag.relocate ‹_›

end

end AnnotatedSql.Grammar
