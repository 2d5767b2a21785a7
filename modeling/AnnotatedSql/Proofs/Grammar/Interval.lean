/-
This file shows that the nodes of the tree of a text stand on intervals of its tokens, those right
below a node on disjoint parts of its interval, in the order of its fields.
-/

import AnnotatedSql.Proofs.Grammar.Soundness.Statement
import AnnotatedSql.Proofs.Grammar.Standing
import AnnotatedSql.Proofs.Grammar.Stretch

namespace AnnotatedSql.Grammar

variable {node : TreeNode} {tokens : List Token} {token : Token}

/-! ### Intervals -/

/-- Tokens that follow each other, by the places of the first one and of the last one. -/
structure Interval where
  first : Nat
  last : Nat

/-- The span goes from the start of the first token to the stop of the last one. -/
structure Interval.Bears (interval : Interval) (tokens : List Token) (span : Span) : Prop where
  nonempty : interval.first ≤ interval.last
  starts : ∃ token, tokens[interval.first]? = some token ∧ token.span.start = span.start
  stops : ∃ token, tokens[interval.last]? = some token ∧ token.span.stop = span.stop

/-- The inner intervals are parts of the outer one, each of them behind the ones before it. -/
def Interval.Holds (outer : Interval) (inner : List Interval) : Prop :=
  (∀ one ∈ inner, outer.first ≤ one.first ∧ one.last ≤ outer.last) ∧
    inner.Pairwise fun earlier later => earlier.last < later.first

section
variable {source : Text} {whole front inside behind : List Token}

theorem Spans.eq_cover {span : Span} (spans : Spans tokens span) (laid : Laid source tokens) :
    tokens ≠ [] ∧ span = cover tokens := by
  cases spans with
  | single => exact ⟨List.cons_ne_nil _ _, laid.cover_single.symm⟩
  | several nonempty => exact ⟨nonempty, rfl⟩

/-- The interval of some tokens among others. -/
def Interval.between (front inside : List Token) : Interval :=
  ⟨front.length, front.length + inside.length - 1⟩

theorem Spans.bears {span : Span} (spans : Spans inside span) (front behind : List Token)
    (laid : Laid source inside) :
    (Interval.between front inside).Bears (front ++ (inside ++ behind)) span := by
  obtain ⟨nonempty, rfl⟩ := spans.eq_cover laid
  have positive : 0 < inside.length := List.length_pos_iff.mpr nonempty
  rw [laid.cover_eq nonempty]
  refine ⟨?_, ⟨inside.head nonempty, ?_, rfl⟩, inside.getLast nonempty, ?_, rfl⟩
  · dsimp only [Interval.between]
    omega
  · rw [Interval.between, List.getElem?_append_right (Nat.le_refl _), Nat.sub_self,
      List.getElem?_append_left positive, ← List.head?_eq_getElem?]
    exact List.head?_eq_some_head nonempty
  · dsimp only [Interval.between]
    have place : front.length + inside.length - 1 - front.length = inside.length - 1 := by omega
    rw [List.getElem?_append_right (by omega), place, List.getElem?_append_left (by omega),
      ← List.getLast?_eq_getElem?]
    exact List.getLast?_eq_some_getLast nonempty

/-- The nodes of a row have intervals one behind the other among its tokens. -/
theorem InRow.intervals {nodes : List TreeNode} {inside behind : List Token}
    (row : InRow nodes inside behind) (front : List Token) (laid : Laid source inside) : ∃ below,
      List.Forall₂ (fun child interval =>
        Interval.Bears interval (front ++ (inside ++ behind)) child.span) nodes below ∧
      (∀ interval ∈ below,
        front.length ≤ interval.first ∧ interval.last < front.length + inside.length) ∧
      below.Pairwise fun earlier later => earlier.last < later.first :=
  match row, laid with
  | .nil, _ => ⟨[], .nil, nofun, .nil⟩
  | @InRow.cons node rest gap tokens others behind first row, laid => by
      obtain ⟨below, bears, within, apart⟩ :=
        row.intervals (front ++ (gap ++ tokens)) laid.right.right
      have own := first.spans.bears (front ++ gap) (others ++ behind) laid.right.left
      have nonempty := (first.spans.eq_cover laid.right.left).1
      have positive : 0 < tokens.length := List.length_pos_iff.mpr nonempty
      simp only [List.append_assoc] at own bears ⊢
      refine ⟨Interval.between (front ++ gap) tokens :: below, .cons own bears, ?_, ?_⟩
      · intro interval member
        simp only [List.length_append] at within ⊢
        rcases List.mem_cons.mp member with rfl | member
        · simp only [Interval.between, List.length_append]
          omega
        · have inside := within interval member
          omega
      · refine List.pairwise_cons.mpr ⟨?_, apart⟩
        intro interval member
        have inside := within interval member
        simp only [Interval.between, List.length_append] at inside ⊢
        omega

end

/-! ### Trees of texts -/

section
variable {source : Text} {place later : Nat} {first second : Token}

/-- An earlier token lies before a later one in the source. -/
theorem precedes_of_lt (found : (tokenize source)[place]? = some first)
    (next : (tokenize source)[later]? = some second) (less : place < later) :
    first.span.start < second.span.start ∧ first.span.stop < second.span.stop := by
  obtain ⟨each, ordered⟩ := (Reader.ofSource source).tokens_ordered
  change (tokenize source).Pairwise Token.Precedes at ordered
  obtain ⟨inside, same⟩ := List.getElem?_eq_some_iff.mp found
  obtain ⟨laterInside, laterSame⟩ := List.getElem?_eq_some_iff.mp next
  have apart := List.pairwise_iff_getElem.mp ordered place later inside laterInside less
  have extent := (each first (List.mem_of_getElem? found)).2
  have laterExtent := (each second (List.mem_of_getElem? next)).2
  rw [same, laterSame, Token.Precedes] at apart
  omega

/-- No two tokens start alike or stop alike. -/
theorem place_eq (found : (tokenize source)[place]? = some first)
    (next : (tokenize source)[later]? = some second)
    (alike : first.span.start = second.span.start ∨ first.span.stop = second.span.stop) :
    place = later := by
  rcases Nat.lt_trichotomy place later with less | same | more
  · have apart := precedes_of_lt found next less
    omega
  · exact same
  · have apart := precedes_of_lt next found more
    omega

/-- A span has at most one interval. -/
theorem Interval.Bears.unique {span : Span} {interval other : Interval}
    (bears : interval.Bears (tokenize source) span) (also : other.Bears (tokenize source) span) :
    other = interval := by
  obtain ⟨_, ⟨_, isFirst, starts⟩, _, isLast, stops⟩ := bears
  obtain ⟨_, ⟨_, isOtherFirst, alsoStarts⟩, _, isOtherLast, alsoStops⟩ := also
  have sameFirst := place_eq isOtherFirst isFirst (.inl (alsoStarts.trans starts.symm))
  have sameLast := place_eq isOtherLast isLast (.inr (alsoStops.trans stops.symm))
  obtain ⟨_, _⟩ := interval
  obtain ⟨_, _⟩ := other
  exact congrArg₂ Interval.mk sameFirst sameLast

end

/-- A closed statement stops every expression. -/
theorem Parse.Closing.stops {closing : List Token} (closes : Parse.Closing closing)
    (last : token.kind = .endOfInput) : Stops (closing ++ [token]) := by
  cases closes with
  | absent => exact stops_of_kind last rfl
  | present semicolon => exact stops_of_kind semicolon rfl

/-- Every node of the tree of a text stands on some of its tokens, and there are more behind. -/
theorem node_on {source : Text} {tree : Select} (accepted : parse source = .ok tree)
    (within : (TreeNode.select tree).Has node) :
    ∃ front inside behind, tokenize source = front ++ (inside ++ behind) ∧ Laid source inside ∧
      behind ≠ [] ∧ node.On inside behind := by
  obtain ⟨tokens, closing, ending, whole, closes, last, derived⟩ := parse_derives accepted
  rw [List.append_assoc] at whole
  have laid := derived.laid whole
  obtain ⟨front, inside, others, rfl, stands⟩ :=
    (derived.on _ fun _ => closes.stops last).within within
  refine ⟨front, inside, others ++ (closing ++ [ending]), ?_, laid.right.left, by simp, stands⟩
  rw [whole, List.append_assoc, List.append_assoc]

/-- Where some tokens of a source were read, the last of them stops behind the start of the first
one. So `spanFrom` takes the stop of the last token as it is, and never the start in its place. -/
theorem spanFrom_unclamped {source : Text} {front : List Token} {before after : Cursor}
    (reached : (Cursor.ofTokens (tokenize source)).Reads front before)
    (reads : before.Reads tokens after) (nonempty : tokens ≠ []) :
    ∃ stop, after.lastStop = some stop ∧ before.current.span.start ≤ stop ∧
      after.spanFrom before.current.span.start = ⟨before.current.span.start, stop⟩ := by
  have unread := laid_ofTokens source
  rw [reached.unread, reads.unread] at unread
  have laid : Laid source tokens := unread.right.left
  have first : tokens.head nonempty = before.current := by
    have current := reads.current nonempty
    rw [List.head?_eq_some_head nonempty] at current
    exact Option.some.inj current
  have covers := laid.cover_eq nonempty
  have fits := laid.cover_fits nonempty
  rw [covers, first] at fits
  refine ⟨(tokens.getLast nonempty).span.stop, ?_, fits.1, ?_⟩
  · rw [reads.lastStop_eq nonempty, stopOf?, List.getLast?_eq_some_getLast nonempty, Option.map_some]
  · rw [reads.spanFrom nonempty, covers, first]

/-- Every node of the tree of a text has exactly one interval among the tokens, which holds the
intervals of the nodes right below it; its span goes from the start of the first token to the stop
of the last one, forwards, and has a text in the source. -/
theorem nodes_on_intervals (source : Text) (tree : Select) (accepted : parse source = .ok tree)
    (node : TreeNode) (within : (TreeNode.select tree).Has node) :
    ∃ interval : Interval, interval.Bears (tokenize source) node.span ∧
      (∀ other : Interval, other.Bears (tokenize source) node.span → other = interval) ∧
      (∃ below : List Interval,
        List.Forall₂ (fun child inner => Interval.Bears inner (tokenize source) child.span)
          node.children below ∧ interval.Holds below) ∧
      node.span.start ≤ node.span.stop ∧
      ∃ text, text ≠ [] ∧ node.span.text? source = some text := by
  obtain ⟨front, inside, behind, whole, laid, _, stands⟩ := node_on accepted within
  cases stands with
  | intro spans _ row =>
      have bears := spans.bears front behind laid
      obtain ⟨below, each, bounds, apart⟩ := row.intervals front laid
      obtain ⟨nonempty, same⟩ := spans.eq_cover laid
      have fits := laid.cover_fits nonempty
      rw [← same] at fits
      rw [← whole] at bears each
      refine ⟨Interval.between front inside, bears, fun _ => bears.unique,
        ⟨below, each, ?_, apart⟩, fits.1, fits.text_nonempty⟩
      intro one member
      have bound := bounds one member
      dsimp only [Interval.between]
      omega

/-- A clause behind others, whose items have a sign in front or a direction behind. -/
theorem nodes_on_intervals_ordering :
    ∃ tree clause, parse "SELECT a FROM t ORDER BY -1 DESC, f(b, 2)".toList = .ok tree ∧
      tree.ordering = some clause ∧
      ∃ interval : Interval,
        interval.Bears (tokenize "SELECT a FROM t ORDER BY -1 DESC, f(b, 2)".toList) clause.span ∧
        ∃ below : List Interval,
          List.Forall₂ (fun child inner => Interval.Bears inner
            (tokenize "SELECT a FROM t ORDER BY -1 DESC, f(b, 2)".toList) child.span)
            (TreeNode.orderClause clause).children below ∧ interval.Holds below := by
  have ordered : ((parse "SELECT a FROM t ORDER BY -1 DESC, f(b, 2)".toList).toOption.bind
      Select.ordering).isSome := by decide +kernel
  rcases accepted : parse "SELECT a FROM t ORDER BY -1 DESC, f(b, 2)".toList with error | tree
  · rw [accepted] at ordered
    exact absurd ordered Bool.false_ne_true
  · rw [accepted] at ordered
    obtain ⟨clause, ordering⟩ := Option.isSome_iff_exists.mp ordered
    change tree.ordering = some clause at ordering
    have within : (TreeNode.select tree).Has (.orderClause clause) :=
      .single (by simp [TreeNode.children, ordering])
    obtain ⟨interval, bears, _, below, _⟩ := nodes_on_intervals _ tree accepted _ within
    exact ⟨tree, clause, rfl, ordering, interval, bears, below⟩

end AnnotatedSql.Grammar
