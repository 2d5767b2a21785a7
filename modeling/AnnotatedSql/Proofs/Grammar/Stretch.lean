/-
This file shows how the span over a stretch of tokens lies: it starts with the first token and
stops with the last one, and what lies inside a stretch lies before what lies inside a later one.
-/

import AnnotatedSql.Proofs.Annotate.Placed
import AnnotatedSql.Proofs.Grammar.Terminal
import Mathlib.Data.List.Basic

namespace AnnotatedSql

open Grammar (cover)

variable {source : Text} {tokens others before after : List Token} {token : Token}

/-- The tokens stand in the source, one after the other. -/
structure Laid (source : Text) (tokens : List Token) : Prop where
  stands : ∀ token ∈ tokens, token.Stands source
  ordered : tokens.Pairwise Token.Precedes

/-- The span lies between the start of one of the tokens and the stop of another. -/
def Inside (tokens : List Token) (span : Span) : Prop :=
  (∃ first ∈ tokens, first.span.start ≤ span.start) ∧ ∃ last ∈ tokens, span.stop ≤ last.span.stop

theorem Inside.mono {span : Span} (inside : Inside tokens span)
    (more : ∀ token ∈ tokens, token ∈ others) : Inside others span := by
  obtain ⟨⟨first, isFirst, starts⟩, last, isLast, stops⟩ := inside
  exact ⟨⟨first, more first isFirst, starts⟩, last, more last isLast, stops⟩

theorem inside_of_mem (member : token ∈ tokens) : Inside tokens token.span :=
  ⟨⟨token, member, Nat.le_refl _⟩, token, member, Nat.le_refl _⟩

/-- What lies inside a span that lies inside some tokens lies inside them too. -/
theorem Inside.within {inner outer : Span} (inside : Inside tokens outer)
    (within : inner.Within outer) : Inside tokens inner := by
  obtain ⟨⟨first, isFirst, starts⟩, last, isLast, stops⟩ := inside
  exact ⟨⟨first, isFirst, Nat.le_trans starts within.1⟩, last, isLast,
    Nat.le_trans within.2 stops⟩

/-- The spans lie inside the tokens, one after the other. -/
def Siblings (tokens : List Token) (spans : List Span) : Prop :=
  (∀ span ∈ spans, Inside tokens span) ∧ spans.Pairwise Span.Precedes

namespace Siblings

variable {spans further : List Span} {span : Span}

theorem nil : Siblings tokens [] := ⟨fun _ member => absurd member List.not_mem_nil, .nil⟩

theorem single (inside : Inside tokens span) : Siblings tokens [span] := by
  refine ⟨?_, List.pairwise_singleton _ _⟩
  intro other member
  rw [List.mem_singleton] at member
  rw [member]
  exact inside

theorem inside (siblings : Siblings tokens [span]) : Inside tokens span :=
  siblings.1 span List.mem_cons_self

theorem mono (siblings : Siblings tokens spans) (more : ∀ token ∈ tokens, token ∈ others) :
    Siblings others spans :=
  ⟨fun span member => (siblings.1 span member).mono more, siblings.2⟩

theorem left (siblings : Siblings tokens spans) : Siblings (tokens ++ others) spans :=
  siblings.mono fun _ => List.mem_append_left others

theorem right (siblings : Siblings tokens spans) : Siblings (others ++ tokens) spans :=
  siblings.mono fun _ => List.mem_append_right others

theorem cons (siblings : Siblings tokens spans) : Siblings (token :: tokens) spans :=
  siblings.mono fun _ => List.mem_cons_of_mem token

end Siblings

namespace Laid

theorem fewer (laid : Laid source tokens) (fewer : before.Sublist tokens) : Laid source before :=
  ⟨fun token member => laid.stands token (fewer.subset member), laid.ordered.sublist fewer⟩

theorem left (laid : Laid source (tokens ++ others)) : Laid source tokens :=
  laid.fewer (List.sublist_append_left tokens others)

theorem right (laid : Laid source (tokens ++ others)) : Laid source others :=
  laid.fewer (List.sublist_append_right tokens others)

theorem tail (laid : Laid source (token :: tokens)) : Laid source tokens :=
  laid.fewer (List.sublist_cons_self token tokens)

/-- What lies inside some tokens precedes what lies inside later ones. -/
theorem precedes {first second : Span} (laid : Laid source (before ++ after))
    (inside : Inside before first) (later : Inside after second) : first.Precedes second := by
  obtain ⟨_, last, isLast, stops⟩ := inside
  obtain ⟨⟨next, isNext, starts⟩, _⟩ := later
  have apart := (List.pairwise_append.mp laid.ordered).2.2 last isLast next isNext
  rw [Token.Precedes] at apart
  rw [Span.Precedes]
  omega

theorem siblings {spans further : List Span} (laid : Laid source (before ++ after))
    (first : Siblings before spans) (second : Siblings after further) :
    Siblings (before ++ after) (spans ++ further) := by
  constructor
  · intro span member
    rcases List.mem_append.mp member with member | member
    · exact (first.left).1 span member
    · exact (second.right).1 span member
  · rw [List.pairwise_append]
    refine ⟨first.2, second.2, ?_⟩
    intro one isOne other isOther
    exact laid.precedes (first.1 one isOne) (second.1 other isOther)

/-- The span over tokens starts with the first one and stops with the last one. -/
theorem cover_eq (laid : Laid source tokens) (nonempty : tokens ≠ []) :
    cover tokens = ⟨(tokens.head nonempty).span.start, (tokens.getLast nonempty).span.stop⟩ := by
  have extent : (tokens.head nonempty).span.start ≤ (tokens.getLast nonempty).span.stop := by
    obtain ⟨first, rest, rfl⟩ := List.exists_cons_of_ne_nil nonempty
    have start := (laid.stands first List.mem_cons_self).extent
    rcases List.eq_nil_or_concat' rest with rfl | ⟨initial, last, rfl⟩
    · exact start
    · have apart := (List.pairwise_cons.mp laid.ordered).1 last (by simp)
      have stop := (laid.stands last (by simp)).extent
      rw [Token.Precedes] at apart
      simp only [List.head_cons]
      rw [List.getLast_cons (by simp), List.getLast_concat]
      omega
  rw [cover, Grammar.startOf, Grammar.stopOf?, List.head?_eq_some_head nonempty,
    List.getLast?_eq_some_getLast nonempty]
  exact congrArg (Span.mk _) (Nat.max_eq_left extent)

theorem cover_fits (laid : Laid source tokens) (nonempty : tokens ≠ []) :
    (cover tokens).Fits source := by
  apply Span.fits_of_boundaries
  · exact Nat.le_max_right _ _
  · rw [laid.cover_eq nonempty]
    exact (laid.stands _ (List.head_mem nonempty)).starts
  · rw [laid.cover_eq nonempty]
    exact (laid.stands _ (List.getLast_mem nonempty)).stops

theorem inside_cover (laid : Laid source tokens) (nonempty : tokens ≠ []) :
    Inside tokens (cover tokens) := by
  rw [laid.cover_eq nonempty]
  exact ⟨⟨_, List.head_mem nonempty, Nat.le_refl _⟩, _, List.getLast_mem nonempty, Nat.le_refl _⟩

theorem cover_single (laid : Laid source [token]) : cover [token] = token.span :=
  laid.cover_eq (List.cons_ne_nil _ _)

/-- What lies inside tokens lies inside the span over them. -/
theorem within {span : Span} (laid : Laid source tokens) (inside : Inside tokens span) :
    span.Within (cover tokens) := by
  obtain ⟨⟨first, isFirst, starts⟩, last, isLast, stops⟩ := inside
  have nonempty := List.ne_nil_of_mem isFirst
  rw [laid.cover_eq nonempty]
  constructor
  · have least : (tokens.head nonempty).span.start ≤ first.span.start := by
      obtain ⟨head, rest, rfl⟩ := List.exists_cons_of_ne_nil nonempty
      rcases List.mem_cons.mp isFirst with rfl | later
      · exact Nat.le_refl _
      · have apart := (List.pairwise_cons.mp laid.ordered).1 first later
        have extent := (laid.stands head List.mem_cons_self).extent
        rw [Token.Precedes] at apart
        rw [List.head_cons]
        omega
    exact Nat.le_trans least starts
  · have most : last.span.stop ≤ (tokens.getLast nonempty).span.stop := by
      obtain ⟨initial, final, rfl⟩ := (List.eq_nil_or_concat' tokens).resolve_left nonempty
      rw [List.getLast_concat]
      rcases List.mem_append.mp isLast with earlier | here
      · have apart := (List.pairwise_append.mp laid.ordered).2.2 last earlier final
          List.mem_cons_self
        have extent := (laid.stands final (by simp)).extent
        rw [Token.Precedes] at apart
        omega
      · obtain rfl := List.mem_singleton.mp here
        exact Nat.le_refl _
    exact Nat.le_trans stops most

theorem holds {spans : List Span} (laid : Laid source tokens) (siblings : Siblings tokens spans) :
    (cover tokens).Holds spans :=
  ⟨fun span member => laid.within (siblings.1 span member), siblings.2⟩

end Laid

/-! ### The span of a node -/

namespace Grammar

theorem QualifiedName.Derives.span_eq {name : QualifiedName} (derived : name.Derives tokens)
    (laid : Laid source tokens) : name.span = cover tokens := by
  cases derived with
  | plain => exact laid.cover_single.symm
  | owned => rfl

theorem Literal.Derives.span_eq {literal : Literal} (derived : literal.Derives tokens)
    (laid : Laid source tokens) : literal.span = cover tokens := by
  cases derived with
  | negativeNumber => rfl
  | _ => exact laid.cover_single.symm

/-- The span of a node that has one of its own. -/
def Node.span? : Node → Option Span
  | .expr node => some node.span
  | .primary node => some node.span
  | .predicate node => some node.span
  | .bitExpr node => some node.span
  | .simpleExpr node => some node.span
  | .aggregation node => some node.span
  | .special node => some node.span
  | .regular node => some node.span
  | .orderItem node => some node.span
  | .selectItem node => some node.span
  | .select node => some node.span
  | .subquery node => some node.span
  | _ => none

/-- A node covers the tokens that it derives. -/
theorem Derives.span_eq {quantifiable : TokenKind → Bool} {node : Node} {span : Span}
    (derived : Derives quantifiable node tokens) (laid : Laid source tokens)
    (has : node.span? = some span) : span = cover tokens := by
  induction derived with
  | primary _ ih | predicate _ ih | bitExpr _ ih | simple _ ih | bareSubquery _ ih
  | aggregationCall _ ih | specialCall _ ih | regularCall _ ih => exact ih laid has
  | marker => exact (Option.some.inj has).symm.trans laid.cover_single.symm
  | literal derived => exact (Option.some.inj has).symm.trans (derived.span_eq laid)
  | column derived => exact (Option.some.inj has).symm.trans (derived.span_eq laid)
  | shorthand => exact (Option.some.inj has).symm.trans laid.cover_single.symm
  | _ => cases has <;> rfl

/-- The tokens of a derived node at the start of a source stand in the source. -/
theorem Derives.laid {node : Node} (derived : DerivesWidely node tokens)
    (whole : tokenize source = tokens ++ others) : Laid source tokens := by
  constructor
  · intro token member
    apply tokenize_stands source token
    · rw [whole]
      exact List.mem_append_left _ member
    · intro ends
      have legible := derived.legible token member
      rw [ends] at legible
      exact Bool.false_ne_true legible
  · have ordered : (tokenize source).Pairwise Token.Precedes :=
      (Reader.ofSource source).tokens_ordered.2
    rw [whole] at ordered
    exact (List.pairwise_append.mp ordered).1

end Grammar

/-! ### All tokens of a text -/

/-- All tokens of a text but the end of the input are laid out in the text. -/
theorem laid_ofTokens (source : Text) :
    Laid source (Grammar.Cursor.ofTokens (tokenize source)).unread := by
  obtain ⟨content, ending, whole, _, others⟩ := (Reader.ofSource source).tokens_end
  have unread : (Grammar.Cursor.ofTokens (tokenize source)).unread = content := by
    rw [tokenize, whole]
    exact List.dropLast_concat
  have ordered : (tokenize source).Pairwise Token.Precedes :=
    (Reader.ofSource source).tokens_ordered.2
  rw [unread]
  constructor
  · intro token member
    refine tokenize_stands source token ?_ (others token member)
    rw [tokenize, whole]
    exact List.mem_append_left _ member
  · rw [tokenize, whole, List.pairwise_append] at ordered
    exact ordered.1

theorem mem_ofTokens (member : token ∈ tokenize source) (more : token.kind ≠ .endOfInput) :
    token ∈ (Grammar.Cursor.ofTokens (tokenize source)).unread := by
  obtain ⟨content, ending, whole, last, _⟩ := (Reader.ofSource source).tokens_end
  rw [Grammar.Cursor.ofTokens, tokenize, whole, List.dropLast_concat]
  rw [tokenize, whole] at member
  rcases List.mem_append.mp member with member | member
  · exact member
  · rw [List.mem_singleton.mp member] at more
    exact absurd last more

theorem mem_tokenize (member : token ∈ (Grammar.Cursor.ofTokens (tokenize source)).unread) :
    token ∈ tokenize source := List.dropLast_subset _ member

namespace Laid

variable {other : Token}

/-- Two tokens that start at the same offset are the same. -/
theorem eq_of_start (laid : Laid source tokens) (member : token ∈ tokens) (isOther : other ∈ tokens)
    (same : token.span.start = other.span.start) : token = other := by
  have apart {first second : Token} (precedes : first.Precedes second)
      (isFirst : first ∈ tokens) : first.span.start < second.span.start := by
    have extent := (laid.stands first isFirst).extent
    rw [Token.Precedes] at precedes
    omega
  obtain ⟨place, within, rfl⟩ := List.getElem_of_mem member
  obtain ⟨otherPlace, otherWithin, rfl⟩ := List.getElem_of_mem isOther
  rcases Nat.lt_trichotomy place otherPlace with less | rfl | more
  · have precedes := List.pairwise_iff_getElem.mp laid.ordered _ _ within otherWithin less
    exact absurd same (Nat.ne_of_lt (apart precedes member))
  · rfl
  · have precedes := List.pairwise_iff_getElem.mp laid.ordered _ _ otherWithin within more
    exact absurd same.symm (Nat.ne_of_lt (apart precedes isOther))

/-- Tokens that a single token covers are this token. -/
theorem eq_single {stretch : List Token} (laid : Laid source tokens) (infixed : stretch <:+: tokens)
    (nonempty : stretch ≠ []) (member : token ∈ tokens)
    (covered : Grammar.cover stretch = token.span) : stretch = [token] := by
  rw [(laid.fewer infixed.sublist).cover_eq nonempty] at covered
  have starts := congrArg Span.start covered
  have stops := congrArg Span.stop covered
  have head := laid.eq_of_start (infixed.subset (List.head_mem nonempty)) member starts
  obtain ⟨first, rest, rfl⟩ := List.exists_cons_of_ne_nil nonempty
  obtain rfl : first = token := head
  rcases List.eq_nil_or_concat' rest with rfl | ⟨initial, last, rfl⟩
  · rfl
  · -- A further token would stop behind the first one.
    have inside := laid.fewer infixed.sublist
    have precedes := (List.pairwise_cons.mp inside.ordered).1 last (by simp)
    have extent := (inside.stands last (by simp)).extent
    rw [List.getLast_cons (by simp), List.getLast_concat] at stops
    rw [Token.Precedes] at precedes
    dsimp only at stops
    omega

end Laid

/-! ### The tokens under a span -/

/-- The token lies under the span. -/
def Token.liesUnder (span : Span) (token : Token) : Bool :=
  decide (span.start ≤ token.span.start ∧ token.span.stop ≤ span.stop)

/-- The tokens of a source text that lie under a span. -/
def tokensUnder (source : Text) (span : Span) : List Token :=
  (tokenize source).filter (Token.liesUnder span)

/-- Under the span over a stretch of the tokens lies just this stretch. -/
theorem tokensUnder_cover {stretch : List Token} (laid : Laid source stretch)
    (nonempty : stretch ≠ []) (infixed : stretch <:+: tokenize source) :
    tokensUnder source (cover stretch) = stretch := by
  obtain ⟨front, behind, whole⟩ := infixed
  obtain ⟨extents, ordered⟩ := (Reader.ofSource source).tokens_ordered
  change ∀ token ∈ tokenize source, _ at extents
  change (tokenize source).Pairwise Token.Precedes at ordered
  rw [← whole, List.append_assoc, List.pairwise_append] at ordered
  obtain ⟨_, ordered, frontBefore⟩ := ordered
  have behindAfter := (List.pairwise_append.mp ordered).2.2
  have noneInFront : front.filter (Token.liesUnder (cover stretch)) = [] := by
    rw [List.filter_eq_nil_iff]
    intro token member within
    have apart := frontBefore token member _ (List.mem_append_left _ (List.head_mem nonempty))
    have extent := (extents token (whole ▸ by simp [member])).2
    rw [Token.liesUnder, laid.cover_eq nonempty, decide_eq_true_eq] at within
    rw [Token.Precedes] at apart
    dsimp only at within
    omega
  have noneBehind : behind.filter (Token.liesUnder (cover stretch)) = [] := by
    rw [List.filter_eq_nil_iff]
    intro token member within
    have apart := behindAfter _ (List.getLast_mem nonempty) token member
    have extent := (extents token (whole ▸ by simp [member])).2
    rw [Token.liesUnder, laid.cover_eq nonempty, decide_eq_true_eq] at within
    rw [Token.Precedes] at apart
    dsimp only at within
    omega
  have all : stretch.filter (Token.liesUnder (cover stretch)) = stretch := by
    rw [List.filter_eq_self]
    intro token member
    exact decide_eq_true (laid.within (inside_of_mem member))
  rw [tokensUnder, ← whole, List.filter_append, List.filter_append, noneInFront, noneBehind, all,
    List.nil_append, List.append_nil]

end AnnotatedSql
