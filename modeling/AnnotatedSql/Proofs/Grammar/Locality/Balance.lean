/-
This file shows that the parentheses in a phrase match, so that a parenthesis that is opened inside
a statement is closed there.
-/

import AnnotatedSql.Proofs.Grammar.Locality.Relocation
import AnnotatedSql.Proofs.Grammar.Terminal
import Mathlib.Data.List.Basic

namespace AnnotatedSql.Grammar

variable {tokens others : List Token} {token : Token} {kind : TokenKind} {node : Node}

/-- How deep in parentheses one is behind a token of the given kind; no parenthesis is closed that
was not opened. -/
def depthBehind (kind : TokenKind) (depth : Nat) : Option Nat :=
  match kind with
  | .symbol .leftParen => some (depth + 1)
  | .symbol .rightParen => if depth = 0 then none else some (depth - 1)
  | _ => some depth

/-- How deep in parentheses one is behind the tokens. -/
def nesting (depth : Nat) (tokens : List Token) : Option Nat :=
  tokens.foldlM (fun depth token => depthBehind token.kind depth) depth

/-- Every parenthesis among the tokens has its partner there. -/
def Balanced (tokens : List Token) : Prop := ∀ depth, nesting depth tokens = some depth

def isParen : TokenKind → Bool
  | .symbol .leftParen | .symbol .rightParen => true
  | _ => false

/-! ### Nesting -/

@[simp] theorem nesting_nil (depth : Nat) : nesting depth [] = some depth := rfl

theorem nesting_cons (depth : Nat) :
    nesting depth (token :: tokens) =
      (depthBehind token.kind depth).bind fun reached => nesting reached tokens :=
  List.foldlM_cons ..

theorem nesting_append (depth : Nat) :
    nesting depth (tokens ++ others) =
      (nesting depth tokens).bind fun reached => nesting reached others :=
  List.foldlM_append ..

theorem depthBehind_other {depth : Nat} (other : isParen kind = false) :
    depthBehind kind depth = some depth := by
  unfold depthBehind
  split <;> simp_all [isParen]

theorem nesting_other {depth : Nat} (other : isParen token.kind = false) :
    nesting depth (token :: tokens) = nesting depth tokens := by
  rw [nesting_cons, depthBehind_other other, Option.bind_some]

theorem nesting_opening {depth : Nat} (opens : token.kind = .symbol .leftParen) :
    nesting depth (token :: tokens) = nesting (depth + 1) tokens := by
  rw [nesting_cons, opens]
  rfl

theorem nesting_closing {depth : Nat} (closes : token.kind = .symbol .rightParen) :
    nesting (depth + 1) (token :: tokens) = nesting depth tokens := by
  rw [nesting_cons, closes]
  rfl

/-- Inside further parentheses one is deeper by just as many. -/
theorem nesting_add {depth reached : Nat} (more : Nat)
    (found : nesting depth tokens = some reached) :
    nesting (depth + more) tokens = some (reached + more) := by
  induction tokens generalizing depth with
  | nil =>
      obtain rfl := Option.some.inj found
      rfl
  | cons token rest ih =>
      rw [nesting_cons, Option.bind_eq_some_iff] at found
      obtain ⟨middle, step, found⟩ := found
      have further : depthBehind token.kind (depth + more) = some (middle + more) := by
        unfold depthBehind at step ⊢
        split at step <;> grind
      rw [nesting_cons, further]
      exact ih found

/-- Parentheses that are opened among the last of some balanced tokens are closed there. -/
theorem Balanced.closes_inside {opening closing : Token}
    {inside before further rest : List Token} (balanced : Balanced (before ++ tokens))
    (inner : Balanced inside) (opens : opening.kind = .symbol .leftParen) (nonempty : tokens ≠ [])
    (same : opening :: inside ++ [closing] ++ further = tokens ++ rest) :
    ∃ left, tokens = opening :: inside ++ [closing] ++ left := by
  rcases List.append_eq_append_iff.mp same with ⟨left, split, _⟩ | ⟨left, split, _⟩
  · exact ⟨left, split⟩
  · rcases List.eq_nil_or_concat' left with rfl | ⟨initial, last, rfl⟩
    · exact ⟨[], by rw [split, List.append_nil, List.append_nil]⟩
    · -- the parenthesis would be open behind the balanced tokens
      obtain ⟨first, more, rfl⟩ := List.exists_cons_of_ne_nil nonempty
      rw [List.cons_append, List.cons_append, List.cons.injEq, ← List.append_assoc] at split
      obtain ⟨rfl, split⟩ := split
      obtain ⟨rfl, _⟩ := List.append_inj' split rfl
      have inner := inner 0
      have balanced := balanced 0
      rw [nesting_append, Option.bind_eq_some_iff] at inner balanced
      obtain ⟨reached, found, _⟩ := inner
      obtain ⟨depth, _, closed⟩ := balanced
      have deeper := nesting_add (depth + 1) found
      rw [Nat.zero_add] at deeper
      rw [nesting_opening opens, deeper] at closed
      cases closed

/-! ### Classes of kinds -/

/-- A class that has neither parenthesis. -/
theorem isParen_of_class {isClass : TokenKind → Bool} (found : isClass kind)
    (left : isClass (.symbol .leftParen) = false) (right : isClass (.symbol .rightParen) = false) :
    isParen kind = false := by
  unfold isParen
  split <;> simp_all

@[simp, grind =] theorem isParen_keyword (word : Keyword) : isParen (.keyword word) = false := rfl

@[simp, grind =] theorem isParen_symbol (sign : Symbol) :
    isParen (.symbol sign) = (sign == .leftParen || sign == .rightParen) := by
  cases sign <;> rfl

@[grind →] theorem isParen_of_isName (found : kind.isName) : isParen kind = false :=
  isParen_of_class found rfl rfl

@[grind →] theorem isParen_of_isConnective (found : isConnective kind) : isParen kind = false :=
  isParen_of_class found rfl rfl

@[grind →] theorem isParen_of_isNegation (found : isNegation kind) : isParen kind = false :=
  isParen_of_class found rfl rfl

@[grind →] theorem isParen_of_isTruthValue (found : isTruthValue kind) : isParen kind = false :=
  isParen_of_class found rfl rfl

@[grind →] theorem isParen_of_isQuantifier (found : isQuantifier kind) : isParen kind = false :=
  isParen_of_class found rfl rfl

@[grind →] theorem isParen_of_isComparison (found : Precedence.isComparison kind) :
    isParen kind = false := isParen_of_class found rfl rfl

@[grind →] theorem isParen_of_isBitOperator (found : isBitOperator kind) : isParen kind = false :=
  isParen_of_class found rfl rfl

@[grind →] theorem isParen_of_isUnaryOperator (found : isUnaryOperator kind) :
    isParen kind = false := isParen_of_class found rfl rfl

@[grind →] theorem isParen_of_isTrimSide (found : isTrimSide kind) : isParen kind = false :=
  isParen_of_class found rfl rfl

/-! ### Phrases -/

namespace Balanced

@[grind .] theorem nil : Balanced [] := fun _ => rfl

@[grind ←] theorem cons (other : isParen token.kind = false) (rest : Balanced tokens) :
    Balanced (token :: tokens) := fun depth => (nesting_other other).trans (rest depth)

@[grind ←] theorem append (first : Balanced tokens) (second : Balanced others) :
    Balanced (tokens ++ others) := by
  intro depth
  rw [nesting_append, first depth]
  exact second depth

/-- It does not matter where the tokens stand. -/
theorem relocate (balanced : Balanced tokens) (move : Nat → Nat) :
    Balanced (tokens.map (Token.relocate move)) := by
  intro depth
  rw [nesting, List.foldlM_map]
  exact balanced depth

/-- Parentheses may stand around. -/
theorem enclosed {opening closing : Token} (opens : opening.kind = .symbol .leftParen)
    (balanced : Balanced tokens) (closes : closing.kind = .symbol .rightParen) :
    Balanced (opening :: tokens ++ [closing]) := by
  intro depth
  rw [List.cons_append, nesting_opening opens, nesting_append, balanced, Option.bind_some,
    nesting_closing closes, nesting_nil]

/-- Parentheses may stand around, behind the name of a function. -/
theorem called {name opening closing : Token} (other : isParen name.kind = false)
    (opens : opening.kind = .symbol .leftParen) (balanced : Balanced tokens)
    (closes : closing.kind = .symbol .rightParen) :
    Balanced (name :: opening :: tokens ++ [closing]) :=
  (balanced.enclosed opens closes).cons other

end Balanced

@[grind →] theorem QualifiedName.Derives.balanced {name : QualifiedName}
    (derived : name.Derives tokens) : Balanced tokens := by
  cases derived <;> grind

@[grind →] theorem Literal.Derives.balanced {literal : Literal} (derived : literal.Derives tokens) :
    Balanced tokens := by
  cases derived <;> grind [isParen]

@[grind →] theorem Flag.balanced {word : Keyword} {found : Option Span}
    (flag : Flag word found tokens) : Balanced tokens := by
  cases flag <;> grind

theorem TypeLength.balanced (length : TypeLength tokens) : Balanced tokens := by
  cases length with
  | @length opening number closing opens _ closes =>
      have inner : Balanced [number] := by grind [isParen]
      exact inner.enclosed opens closes
  | @scaled opening number comma scale closing opens _ _ _ closes =>
      have inner : Balanced [number, comma, scale] := by grind [isParen]
      exact inner.enclosed opens closes

theorem balanced_of_identifiers (words : ∀ word ∈ tokens, word.kind = .identifier) :
    Balanced tokens := by
  induction tokens with
  | nil => exact .nil
  | cons first rest ih =>
      have word := words first List.mem_cons_self
      exact (ih fun word member => words word (List.mem_cons_of_mem first member)).cons
        (by rw [word]; rfl)

theorem DataType.Derives.balanced {target : DataType} (derived : target.Derives tokens) :
    Balanced tokens := by
  cases derived with
  | plain _ words => exact balanced_of_identifiers words
  | sized _ words length => exact (balanced_of_identifiers words).append length.balanced

@[grind →] theorem ItemLabel.balanced {found : Option Label} (itemLabel : ItemLabel found tokens) :
    Balanced tokens := by
  cases itemLabel <;> grind

@[grind →] theorem Tables.balanced {found : Option NameList} (tables : Tables found tokens) :
    Balanced tokens := by
  cases tables with
  | absent => exact .nil
  | present word names =>
      refine Balanced.cons (by rw [word]; rfl) ?_
      clear word
      induction names with
      | single first => exact first.balanced
      | cons first comma _ ih => exact first.balanced.append (ih.cons (by rw [comma]; rfl))

@[grind →] theorem DirectionWord.balanced {ascending descending : Option Span}
    (direction : DirectionWord ascending descending tokens) : Balanced tokens := by
  cases direction <;> grind

@[grind →] theorem DistinctWord.balanced {distinct : Option Span}
    (word : DistinctWord distinct tokens) : Balanced tokens := by
  cases word <;> grind

@[grind →] theorem TrimSide.balanced (side : TrimSide tokens) : Balanced tokens := by
  cases side <;> grind

/-- The parentheses of a phrase match. -/
theorem Derives.balanced (derived : DerivesWidely node tokens) : Balanced tokens := by
  induction derived with
  | paren opens _ closes inner | row opens _ closes inner | subquery opens _ closes inner =>
      exact inner.enclosed opens closes
  | inList _ flag word opens _ closes operand items =>
      have listed := Balanced.called (by rw [word]; rfl) opens items closes
      have all := operand.append (flag.balanced.append listed)
      simpa using all
  | aggregation name opens distinct _ closes inner =>
      have all := Balanced.called (isParen_of_isName (isName_of_namesAggregate name)) opens
        (distinct.balanced.append inner) closes
      simpa using all
  | cast name opens _ word target closes inner =>
      have typed := target.balanced.cons (by rw [word]; rfl)
      have all := Balanced.called (by rw [name]; rfl) opens (inner.append typed) closes
      simpa using all
  | substring name opens _ _ _ _ closes first second third =>
      have all := Balanced.called (by rw [name]; rfl) opens ((first.append second).append third)
        closes
      simpa using all
  | extract name opens field word _ closes inner =>
      have source := (inner.cons (by rw [word]; rfl)).cons (isParen_of_isName field)
      have all := Balanced.called (by rw [name]; rfl) opens source closes
      simpa using all
  | trim name opens side _ _ closes first second =>
      have all := Balanced.called (by rw [name]; rfl) opens
        ((side.balanced.append first).append second) closes
      simpa using all
  | regular name opens _ closes inner =>
      exact inner.called (isParen_of_isName name) opens closes
  | _ => grind

end AnnotatedSql.Grammar
