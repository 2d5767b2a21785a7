/-
This file divides tokens at the commas that stand outside of parentheses, and shows that no
expression is divided, so that the arguments of an aggregate are what lies between these commas.
-/

import AnnotatedSql.Proofs.Grammar.Locality.Balance
import AnnotatedSql.Proofs.Grammar.Stretch

namespace AnnotatedSql.Grammar

variable {source : Text} {tokens others : List Token} {token : Token} {kind : TokenKind}

/-! ### Commas outside of parentheses -/

/-- The stretches of tokens between the commas that stand outside of parentheses, when one is so
deep in parentheses in front of the tokens. -/
def divide (depth : Nat) : List Token → List (List Token)
  | [] => [[]]
  | token :: rest =>
      if depth = 0 ∧ token.kind = .symbol .comma then [] :: divide 0 rest
      else (divide ((depthBehind token.kind depth).getD 0) rest).modifyHead (token :: ·)

/-- The tokens belong to one stretch, whatever follows. -/
def Undivided (tokens : List Token) : Prop :=
  ∀ others, divide 0 (tokens ++ others) = (divide 0 others).modifyHead (tokens ++ ·)

/-- The kinds of tokens that matter for how tokens are divided. -/
def isDivider (kind : TokenKind) : Bool := isParen kind || kind == .symbol .comma

theorem isDivider_of_class {isClass : TokenKind → Bool} (found : isClass kind)
    (left : isClass (.symbol .leftParen) = false) (right : isClass (.symbol .rightParen) = false)
    (comma : isClass (.symbol .comma) = false) : isDivider kind = false := by
  rw [isDivider, isParen_of_class found left right, Bool.false_or, beq_eq_false_iff_ne]
  rintro rfl
  rw [comma] at found
  cases found

theorem isDivider_of_keyword {word : Keyword} (found : kind = .keyword word) :
    isDivider kind = false := by
  rw [found]
  rfl

theorem isDivider_of_isName (name : kind.isName) : isDivider kind = false :=
  isDivider_of_class name rfl rfl rfl

theorem isParen_of_isDivider (other : isDivider kind = false) : isParen kind = false :=
  (Bool.or_eq_false_iff.mp other).1

/-- Inside parentheses no comma divides. -/
theorem divide_deep {depth reached : Nat} (found : nesting depth tokens = some reached)
    (others : List Token) :
    divide (depth + 1) (tokens ++ others) =
      (divide (reached + 1) others).modifyHead (tokens ++ ·) := by
  induction tokens generalizing depth with
  | nil =>
      obtain rfl := Option.some.inj found
      exact (congrFun List.modifyHead_id _).symm
  | cons token rest ih =>
      rw [nesting_cons, Option.bind_eq_some_iff] at found
      obtain ⟨middle, step, found⟩ := found
      have deeper : depthBehind token.kind (depth + 1) = some (middle + 1) := by
        unfold depthBehind at step ⊢
        split at step <;> grind
      rw [List.cons_append, divide, if_neg fun both => Nat.succ_ne_zero depth both.1, deeper,
        Option.getD_some, ih found, List.modifyHead_modifyHead]
      rfl

namespace Undivided

theorem nil : Undivided [] := fun _ => (congrFun List.modifyHead_id _).symm

theorem append (first : Undivided tokens) (second : Undivided others) :
    Undivided (tokens ++ others) := by
  intro further
  rw [List.append_assoc, first, second, List.modifyHead_modifyHead]
  congr 1
  funext rest
  exact (List.append_assoc _ _ _).symm

theorem single (other : isDivider token.kind = false) : Undivided [token] := by
  intro others
  rw [isDivider, Bool.or_eq_false_iff, beq_eq_false_iff_ne] at other
  rw [List.singleton_append, divide, if_neg fun both => other.2 both.2, depthBehind_other other.1]
  rfl

theorem cons (other : isDivider token.kind = false) (rest : Undivided tokens) :
    Undivided (token :: tokens) := (single other).append rest

theorem concat (first : Undivided tokens) (other : isDivider token.kind = false) :
    Undivided (tokens ++ [token]) := first.append (single other)

/-- Parentheses may stand around tokens that are divided. -/
theorem enclosed {opening closing : Token} (opens : opening.kind = .symbol .leftParen)
    (balanced : Balanced tokens) (closes : closing.kind = .symbol .rightParen) :
    Undivided (opening :: tokens ++ [closing]) := by
  intro others
  have outside : ¬ ((0 : Nat) = 0 ∧ opening.kind = .symbol .comma) := by
    rw [opens]
    exact fun both => nomatch both.2
  have closed : divide 1 (closing :: others) = (divide 0 others).modifyHead (closing :: ·) := by
    rw [divide, if_neg fun both => Nat.one_ne_zero both.1, closes]
    rfl
  rw [List.cons_append, List.cons_append, divide, if_neg outside, opens, List.append_assoc]
  change (divide 1 (tokens ++ closing :: others)).modifyHead _ = _
  rw [divide_deep (balanced 0), closed, List.modifyHead_modifyHead, List.modifyHead_modifyHead]
  congr 1
  funext rest
  simp

/-- Parentheses may stand around, behind the name of a function. -/
theorem called {name opening closing : Token} (other : isDivider name.kind = false)
    (opens : opening.kind = .symbol .leftParen) (balanced : Balanced tokens)
    (closes : closing.kind = .symbol .rightParen) :
    Undivided (name :: opening :: tokens ++ [closing]) :=
  (enclosed opens balanced closes).cons other

/-- Tokens in front of a comma are a stretch by themselves. -/
theorem divide_comma {comma : Token} (undivided : Undivided tokens)
    (isComma : comma.kind = .symbol .comma) :
    divide 0 (tokens ++ comma :: others) = tokens :: divide 0 others := by
  rw [undivided, divide, if_pos ⟨rfl, isComma⟩, List.modifyHead_cons, List.append_nil]

theorem divide_eq (undivided : Undivided tokens) : divide 0 tokens = [tokens] := by
  have alone := undivided []
  rw [List.append_nil, divide, List.modifyHead_cons, List.append_nil] at alone
  exact alone

end Undivided

/-! ### Phrases that are not divided -/

theorem QualifiedName.Derives.undivided {name : QualifiedName} (derived : name.Derives tokens) :
    Undivided tokens := by
  cases derived with
  | plain name => exact .single (isDivider_of_isName name)
  | owned owner dot name =>
      have named := Undivided.single (isDivider_of_isName name)
      exact (named.cons (by rw [dot]; rfl)).cons (isDivider_of_isName owner)

theorem Literal.Derives.undivided {literal : Literal} (derived : literal.Derives tokens) :
    Undivided tokens := by
  cases derived with
  | boolean found =>
      rcases found with found | found
      · exact .single (by rw [found]; rfl)
      · exact .single (by rw [found]; rfl)
  | negativeNumber sign found =>
      exact (Undivided.single (by rw [found]; rfl)).cons (by rw [sign]; rfl)
  | _ found => exact .single (by rw [found]; rfl)

theorem Flag.undivided {word : Keyword} {found : Option Span} (flag : Flag word found tokens) :
    Undivided tokens := by
  cases flag with
  | absent => exact .nil
  | present found => exact .single (isDivider_of_keyword found)

/-- The phrases in which commas stand outside of parentheses. -/
def Node.isList : Node → Bool
  | .exprs _ | .separatedExpr _ _ | .argumentChain _ | .arguments _ | .regularArguments _ _
  | .orderTarget _ _ _ | .orderItem _ | .orderItems _ | .ordering _ _ | .condition _ _
  | .selectItem _ | .selectItems _ | .select _ => true
  | _ => false

/-- Any other phrase belongs to one stretch. -/
theorem Derives.undivided {node : Node} (derived : DerivesWidely node tokens)
    (other : node.isList = false) : Undivided tokens := by
  induction derived with
  | logical _ word _ first second | comparison _ word _ first second
  | binary _ word _ first second =>
      exact (first rfl).append ((second rfl).cons (isDivider_of_class word rfl rfl rfl))
  | xor _ word _ first second =>
      exact (first rfl).append ((second rfl).cons (isDivider_of_keyword word))
  | negation word _ inner | unary word _ inner =>
      exact (inner rfl).cons (isDivider_of_class word rfl rfl rfl)
  | existence word _ inner | escape word _ inner | led word _ inner =>
      exact (inner rfl).cons (isDivider_of_keyword word)
  | paren opens derived closes | row opens derived closes | subquery opens derived closes =>
      exact .enclosed opens derived.balanced closes
  | primary _ inner | predicate _ inner | bitExpr _ inner | simple _ inner | bareSubquery _ inner
  | aggregationCall _ inner | specialCall _ inner | regularCall _ inner | someSimpleExpr _ inner
  | someExpr _ inner => exact inner rfl
  | isTest _ word flag value first =>
      have test := flag.undivided.cons (isDivider_of_keyword word)
      exact ((first rfl).append test).concat (isDivider_of_class value rfl rfl rfl)
  | quantified _ word quantifier _ first query =>
      have behind := (query rfl).cons (isDivider_of_class quantifier rfl rfl rfl)
      exact (first rfl).append (behind.cons (isDivider_of_class word rfl rfl rfl))
  | inSubquery _ flag word _ first query =>
      have queried := (query rfl).cons (isDivider_of_keyword word)
      exact ((first rfl).append flag.undivided).append queried
  | inList _ flag word opens items closes first =>
      have listed := Undivided.called (isDivider_of_keyword word) opens items.balanced closes
      have all := ((first rfl).append flag.undivided).append listed
      simpa using all
  | between _ flag word _ connective _ first second third =>
      have upper := (third rfl).cons (isDivider_of_keyword connective)
      have lower := (second rfl).cons (isDivider_of_keyword word)
      exact (((first rfl).append flag.undivided).append lower).append upper
  | like _ flag word _ _ first second third =>
      have pattern := (second rfl).cons (isDivider_of_keyword word)
      exact (((first rfl).append flag.undivided).append pattern).append (third rfl)
  | marker found => exact .single (by rw [found]; rfl)
  | literal derived => exact derived.undivided
  | column derived => exact derived.undivided
  | caseOf word _ _ _ _ closing first second third =>
      have operand := (first rfl).cons (isDivider_of_keyword word)
      exact ((operand.append (second rfl)).append (third rfl)).concat (isDivider_of_keyword closing)
  | branch opening _ word _ _ first second third =>
      have condition := (first rfl).cons (isDivider_of_keyword opening)
      exact (condition.append ((second rfl).cons (isDivider_of_keyword word))).append (third rfl)
  | aggregation name opens flag derived closes =>
      have named := isDivider_of_isName (isName_of_namesAggregate name)
      have all := Undivided.called named opens (flag.balanced.append derived.balanced) closes
      simpa using all
  | cast name opens derived word target closes =>
      have typed := target.balanced.cons (isParen_of_isDivider (isDivider_of_keyword word))
      have inside := derived.balanced.append typed
      have all := Undivided.called (isDivider_of_keyword name) opens inside closes
      simpa using all
  | substring name opens first second third _ closes =>
      have inside := (first.balanced.append second.balanced).append third.balanced
      have all := Undivided.called (isDivider_of_keyword name) opens inside closes
      simpa using all
  | extract name opens field word derived closes =>
      have led := derived.balanced.cons (isParen_of_isDivider (isDivider_of_keyword word))
      have inside := led.cons (isParen_of_isName field)
      have all := Undivided.called (isDivider_of_keyword name) opens inside closes
      simpa using all
  | trim name opens side first second closes =>
      have inside := (side.balanced.append first.balanced).append second.balanced
      have all := Undivided.called (isDivider_of_keyword name) opens inside closes
      simpa using all
  | regular name opens derived closes =>
      exact .called (isDivider_of_isName name) opens derived.balanced closes
  | noEscape | noSimpleExpr | noBranch | noExpr | unled => exact .nil
  | _ => cases other

/-! ### The arguments of an aggregate -/

/-- The source text from the first of the tokens to the last one. -/
def stretchText (source : Text) : List Token → Text
  | [] => []
  | first :: rest => (cover (first :: rest)).text source

theorem stretchText_eq (nonempty : tokens ≠ []) :
    stretchText source tokens = (cover tokens).text source := by
  cases tokens with
  | nil => exact absurd rfl nonempty
  | cons first rest => rfl

/-- The texts of the stretches between commas outside of parentheses, and the commas. -/
def dividedText (source : Text) (tokens : List Token) : Text :=
  [','].intercalate ((divide 0 tokens).map (stretchText source))

theorem divide_nonempty (depth : Nat) (tokens : List Token) : divide depth tokens ≠ [] := by
  induction tokens generalizing depth with
  | nil => exact List.cons_ne_nil _ _
  | cons token rest ih =>
      rw [divide]
      split
      · exact List.cons_ne_nil _ _
      · exact fun nothing => ih _ (List.modifyHead_eq_nil_iff.mp nothing)

theorem Undivided.dividedText_eq (undivided : Undivided tokens) (nonempty : tokens ≠ []) :
    dividedText source tokens = (cover tokens).text source := by
  rw [dividedText, undivided.divide_eq, List.map_singleton, stretchText_eq nonempty]
  exact List.append_nil _

theorem Undivided.dividedText_comma {comma : Token} (undivided : Undivided tokens)
    (nonempty : tokens ≠ []) (isComma : comma.kind = .symbol .comma) :
    dividedText source (tokens ++ comma :: others) =
      (cover tokens).text source ++ (',' :: dividedText source others) := by
  have further : (divide 0 others).map (stretchText source) ≠ [] :=
    fun nothing => divide_nonempty 0 others (List.map_eq_nil_iff.mp nothing)
  rw [dividedText, undivided.divide_comma isComma, List.map_cons, stretchText_eq nonempty]
  obtain ⟨first, rest, listed⟩ := List.exists_cons_of_ne_nil further
  rw [dividedText, listed]
  rfl

/-- The texts of the arguments of an aggregate and of the commas between them, all in a row. -/
def argumentText (source : Text) (nodes : List AggregationArgument) : Text :=
  ((nodes.map AggregationArgument.span).map fun span => span.text source).flatten

theorem argumentText_cons (node : AggregationArgument) (nodes : List AggregationArgument) :
    argumentText source (node :: nodes) = node.span.text source ++ argumentText source nodes := rfl

theorem comma_text (stands : token.Stands source) (comma : token.kind = .symbol .comma) :
    token.span.text source = [','] := by
  have spells := stands.spells
  rw [comma] at spells
  rw [stands.span_text]
  exact spells.symbol "," (by decide)

theorem Derives.chain_text {nodes : List AggregationArgument}
    (derived : DerivesWidely (.argumentChain nodes) tokens) (laid : Laid source tokens) :
    argumentText source nodes = dividedText source tokens := by
  generalize whole : Node.argumentChain nodes = node at derived
  induction derived generalizing nodes with
  | lastArgument inner =>
      obtain rfl := Node.argumentChain.inj whole
      rw [(inner.undivided rfl).dividedText_eq (inner.nonempty rfl), ← inner.span_eq laid rfl]
      exact List.append_nil _
  | furtherArgument inner isComma _ _ ih =>
      obtain rfl := Node.argumentChain.inj whole
      have comma := comma_text (laid.right.stands _ List.mem_cons_self) isComma
      rw [(inner.undivided rfl).dividedText_comma (inner.nonempty rfl) isComma,
        ← inner.span_eq laid.left rfl, ← ih laid.right.tail rfl, argumentText_cons,
        argumentText_cons]
      exact congrArg (_ ++ ·) (congrArg (· ++ _) comma)
  | _ => cases whole

/-- The arguments of an aggregate and the commas between them have the texts that are found by
dividing the tokens. -/
theorem Derives.argumentText_eq {nodes : List AggregationArgument}
    (derived : DerivesWidely (.arguments nodes) tokens) (laid : Laid source tokens) :
    argumentText source nodes = dividedText source tokens := by
  cases derived with
  | noArguments => rfl
  | allArguments star =>
      have undivided := Undivided.single (by rw [star]; rfl)
      rw [undivided.dividedText_eq (List.cons_ne_nil _ _), laid.cover_single]
      exact List.append_nil _
  | someArguments derived => exact derived.chain_text laid

/-- What DISTINCT is about, if it is the first of the tokens. -/
def distinctText? (source : Text) : List Token → Option Text
  | [] => none
  | first :: rest =>
      if first.kind = .keyword .DISTINCT then some (dividedText source rest) else none

/-- No argument starts with DISTINCT. -/
theorem Derives.distinctText_eq {distinct : Option Span} {nodes : List AggregationArgument}
    (flag : Flag .DISTINCT distinct others) (derived : DerivesWidely (.arguments nodes) tokens)
    (laid : Laid source tokens) :
    distinctText? source (others ++ tokens) = distinct.map fun _ => argumentText source nodes := by
  cases flag with
  | present word =>
      rw [List.singleton_append, distinctText?, if_pos word, Option.map_some,
        derived.argumentText_eq laid]
  | absent =>
      rw [List.nil_append, Option.map_none]
      cases tokens with
      | nil => rfl
      | cons first rest =>
          apply if_neg
          intro word
          have starts := derived.starts first rfl
          rw [word] at starts
          exact Bool.false_ne_true starts

end AnnotatedSql.Grammar
