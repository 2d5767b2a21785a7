/-
This file shows that the parser sees nothing of a text but the kinds of its tokens, and which of its
bare names are those of aggregates.
-/

import AnnotatedSql.Proofs.Grammar.Locality.Composition
import AnnotatedSql.Proofs.Grammar.Locality.Statement

namespace AnnotatedSql

namespace Token

/-- The name is one of the aggregates that are not keywords, whatever the case of its letters. -/
def isPlainAggregate (token : Token) : Bool :=
  Grammar.Parse.plainAggregates.any fun name => name.toList == token.text.upper

/-- The tokens are of one kind, and both or neither of two bare names is the name of an aggregate. -/
structure SameKind (first second : Token) : Prop where
  kind : first.kind = second.kind
  aggregate : first.kind = .identifier → first.isPlainAggregate = second.isPlainAggregate

instance : DecidableRel SameKind := fun first second =>
  decidable_of_iff (first.kind = second.kind ∧
      (first.kind = .identifier → first.isPlainAggregate = second.isPlainAggregate))
    ⟨fun ⟨kind, aggregate⟩ => ⟨kind, aggregate⟩, fun same => ⟨same.kind, same.aggregate⟩⟩

theorem SameKind.refl (token : Token) : token.SameKind token := ⟨rfl, fun _ => rfl⟩

theorem SameKind.namesAggregate {first second : Token} (same : first.SameKind second) :
    Grammar.Parse.namesAggregate first = Grammar.Parse.namesAggregate second := by
  unfold Grammar.Parse.namesAggregate
  rw [← same.kind]
  split
  · rfl
  · rename_i name
    exact same.aggregate name
  · rfl

/-- The token with two numbers of its own in the place of its offsets. -/
def numbered (index : Nat) (token : Token) : Token :=
  ⟨token.kind, token.text, ⟨2 * index, 2 * index + 1⟩⟩

end Token

namespace Grammar

variable {tokens others : List Token}

/-! ### Offsets and the indices of tokens -/

/-- The index of the first token that reaches up to the offset: the one around it, if there is
one. -/
def tokenIndexAt (tokens : List Token) (offset : Nat) : Nat :=
  tokens.findIdx fun token => offset ≤ token.span.stop

/-- The tokens have an extent and lie one after the other. -/
structure Ascending (tokens : List Token) : Prop where
  extent : ∀ token ∈ tokens, token.span.start ≤ token.span.stop
  ordered : tokens.Pairwise Token.Precedes

theorem tokenize_ascending (source : Text) : Ascending (tokenize source) := by
  obtain ⟨each, ordered⟩ := (Reader.ofSource source).tokens_ordered
  exact ⟨fun token member => (each token member).2, ordered⟩

theorem Ascending.index {index offset : Nat} (ascending : Ascending tokens)
    (inside : index < tokens.length) (starts : tokens[index].span.start ≤ offset)
    (stops : offset ≤ tokens[index].span.stop) :
    tokenIndexAt tokens offset = index := by
  rw [tokenIndexAt, List.findIdx_eq inside]
  refine ⟨decide_eq_true stops, ?_⟩
  intro earlier before
  have apart := List.pairwise_iff_getElem.mp ascending.ordered earlier index (by omega) inside before
  rw [Token.Precedes] at apart
  exact decide_eq_false (by omega)

/-- The offset at which the last token stops. -/
def lastStop (tokens : List Token) : Nat := (stopOf? tokens).getD 0

theorem lastStop_eq (last : tokens.length - 1 < tokens.length) :
    lastStop tokens = tokens[tokens.length - 1].span.stop := by
  rw [lastStop, stopOf?, List.getLast?_eq_getElem?, List.getElem?_eq_getElem last]
  rfl

/-- The offset that has the number: an even one where a token starts, an odd one where it stops. -/
def offsetNumbered (tokens : List Token) (number : Nat) : Nat :=
  match tokens[number / 2]? with
  | some token => if number % 2 = 0 then token.span.start else token.span.stop
  | none => lastStop tokens

theorem offsetNumbered_inside {number : Nat} (inside : number / 2 < tokens.length) :
    offsetNumbered tokens number =
      if number % 2 = 0 then tokens[number / 2].span.start else tokens[number / 2].span.stop := by
  rw [offsetNumbered, List.getElem?_eq_getElem inside]

theorem offsetNumbered_outside {number : Nat} (outside : tokens.length ≤ number / 2) :
    offsetNumbered tokens number = lastStop tokens := by
  rw [offsetNumbered, List.getElem?_eq_none outside]

theorem offsetNumbered_even {index : Nat} (inside : index < tokens.length) :
    offsetNumbered tokens (2 * index) = tokens[index].span.start := by
  have half : 2 * index / 2 = index := by omega
  rw [offsetNumbered_inside (by omega), if_pos (Nat.mul_mod_right 2 index)]
  simp only [half]

theorem offsetNumbered_odd {index : Nat} (inside : index < tokens.length) :
    offsetNumbered tokens (2 * index + 1) = tokens[index].span.stop := by
  have half : (2 * index + 1) / 2 = index := by omega
  rw [offsetNumbered_inside (by omega), if_neg (by omega)]
  simp only [half]

namespace Ascending

/-- The offset with a number lies in the token that has half the number. -/
theorem within (ascending : Ascending tokens) {number : Nat} (inside : number / 2 < tokens.length) :
    tokens[number / 2].span.start ≤ offsetNumbered tokens number ∧
      offsetNumbered tokens number ≤ tokens[number / 2].span.stop := by
  have extent := ascending.extent _ (List.getElem_mem inside)
  rw [offsetNumbered_inside inside]
  split <;> omega

theorem stop_le_lastStop {index : Nat} (ascending : Ascending tokens)
    (inside : index < tokens.length) : tokens[index].span.stop ≤ lastStop tokens := by
  have last : tokens.length - 1 < tokens.length := by omega
  rw [lastStop_eq last]
  rcases Nat.lt_or_ge index (tokens.length - 1) with before | behind
  · have apart := List.pairwise_iff_getElem.mp ascending.ordered _ _ inside last before
    have extent := ascending.extent _ (List.getElem_mem last)
    rw [Token.Precedes] at apart
    omega
  · obtain rfl : index = tokens.length - 1 := by omega
    exact Nat.le_refl _

/-- Offsets ascend with their numbers. -/
theorem monotone (ascending : Ascending tokens) {first second : Nat} (least : first ≤ second) :
    offsetNumbered tokens first ≤ offsetNumbered tokens second := by
  have halves : first / 2 ≤ second / 2 := Nat.div_le_div_right least
  rcases Nat.lt_or_ge (second / 2) tokens.length with inside | outside
  · have firstInside : first / 2 < tokens.length := Nat.lt_of_le_of_lt halves inside
    rcases Nat.lt_or_eq_of_le halves with before | same
    · have apart :=
        List.pairwise_iff_getElem.mp ascending.ordered _ _ firstInside inside before
      have low := (ascending.within firstInside).2
      have high := (ascending.within inside).1
      rw [Token.Precedes] at apart
      omega
    · have extent := ascending.extent _ (List.getElem_mem inside)
      rw [offsetNumbered_inside firstInside, offsetNumbered_inside inside]
      simp only [same]
      split <;> split <;> omega
  · rw [offsetNumbered_outside outside]
    rcases Nat.lt_or_ge (first / 2) tokens.length with firstInside | firstOutside
    · exact Nat.le_trans (ascending.within firstInside).2 (ascending.stop_le_lastStop firstInside)
    · rw [offsetNumbered_outside firstOutside]

/-- From the number of an offset to its token. -/
theorem index_offsetNumbered (ascending : Ascending tokens) (nonempty : tokens ≠ []) (number : Nat) :
    tokenIndexAt tokens (offsetNumbered tokens number) = min (number / 2) (tokens.length - 1) := by
  have some := List.length_pos_iff.mpr nonempty
  rcases Nat.lt_or_ge (number / 2) tokens.length with inside | outside
  · rw [Nat.min_eq_left (by omega)]
    exact ascending.index inside (ascending.within inside).1 (ascending.within inside).2
  · have last : tokens.length - 1 < tokens.length := by omega
    rw [Nat.min_eq_right (by omega), offsetNumbered_outside outside, lastStop_eq last]
    exact ascending.index last (ascending.extent _ (List.getElem_mem last)) (Nat.le_refl _)

end Ascending

/-! ### Tokens by their numbers -/

/-- The tokens with numbers in the place of their offsets. -/
def outline (tokens : List Token) : List Token := tokens.mapIdx Token.numbered

@[simp] theorem outline_length : (outline tokens).length = tokens.length := List.length_mapIdx

theorem outline_concat (token : Token) :
    outline (tokens ++ [token]) = outline tokens ++ [token.numbered tokens.length] :=
  List.mapIdx_concat

theorem outline_kind {token : Token} (member : token ∈ outline tokens) :
    ∃ found ∈ tokens, token.kind = found.kind := by
  obtain ⟨index, inside, rfl⟩ := List.mem_mapIdx.mp member
  exact ⟨tokens[index], List.getElem_mem inside, rfl⟩

/-- Tokens of the same kinds are the numbered ones, moved to their own offsets. -/
theorem alike_outline (same : List.Forall₂ Token.SameKind tokens others) :
    List.Forall₂ (Token.Alike (offsetNumbered tokens)) tokens (outline others) := by
  obtain ⟨lengths, each⟩ := List.forall₂_iff_get.mp same
  refine List.forall₂_iff_get.mpr ⟨by rw [outline_length, lengths], ?_⟩
  intro index inside outlined
  have found := each index inside (by omega)
  simp only [List.get_eq_getElem] at found ⊢
  simp only [outline, List.getElem_mapIdx]
  refine ⟨found.kind, found.namesAggregate, ?_⟩
  rw [Token.numbered, Span.relocate, offsetNumbered_even inside, offsetNumbered_odd inside]

theorem forall₂_concat {related : Token → Token → Prop} {first second : Token} :
    List.Forall₂ related (tokens ++ [first]) (others ++ [second]) ↔
      List.Forall₂ related tokens others ∧ related first second := by
  rw [← List.forall₂_reverse_iff, List.reverse_concat, List.reverse_concat, List.forall₂_cons,
    List.forall₂_reverse_iff, and_comm]

/-- A text makes the tree of its numbered tokens, or fails where they fail. -/
theorem parse_outline {source other : Text}
    (same : List.Forall₂ Token.SameKind (tokenize source) (tokenize other)) :
    parse source = relocateOutcome (offsetNumbered (tokenize source))
      (Parse.statement (Cursor.ofTokens (outline (tokenize other)))).1 := by
  have monotone {first second : Nat} (least : first ≤ second) :=
    (tokenize_ascending source).monotone least
  have alike := alike_outline same
  rw [parse]
  generalize offsetNumbered (tokenize source) = move at alike monotone
  obtain ⟨content, ending, whole, _⟩ := tokenize_end source
  obtain ⟨others, last, otherWhole, ends, more⟩ := tokenize_end other
  rw [whole, otherWhole, outline_concat, forall₂_concat] at alike
  rw [whole, otherWhole, outline_concat]
  refine Parse.statement_relocated monotone alike.1 alike.2 ends ?_
  intro token member
  obtain ⟨found, isFound, kind⟩ := outline_kind member
  rw [kind]
  exact more found isFound

/-- The index of the token around an offset is known from the number of the offset. -/
theorem tokenIndexAt_comp (source : Text) {size : Nat} (length : (tokenize source).length = size) :
    tokenIndexAt (tokenize source) ∘ offsetNumbered (tokenize source) =
      fun number => min (number / 2) (size - 1) := by
  funext number
  have nonempty : tokenize source ≠ [] := by
    obtain ⟨content, ending, whole, _⟩ := tokenize_end source
    rw [whole]
    exact List.concat_ne_nil ending content
  rw [← length]
  exact (tokenize_ascending source).index_offsetNumbered nonempty number

@[simp] theorem SyntaxError.reason_relocate (move : Nat → Nat) (error : SyntaxError) :
    (error.relocate move).reason = error.reason := by
  cases error <;> rfl

@[simp] theorem SyntaxError.expected_relocate (move : Nat → Nat) (error : SyntaxError) :
    (error.relocate move).expected? = error.expected? := by
  cases error <;> rfl

@[simp] theorem SyntaxError.found_relocate (move : Nat → Nat) (error : SyntaxError) :
    (error.relocate move).found? = error.found? := by
  cases error <;> rfl

@[simp] theorem SyntaxError.span_relocate (move : Nat → Nat) (error : SyntaxError) :
    (error.relocate move).span = error.span.relocate move := by
  cases error <;> rfl

/-! ### The outcome depends on kinds only -/

/-- The trees are the same, or the errors are of one sort at the same token, when offsets are
replaced by the indices of the tokens around them. -/
inductive SameOutcome (tokens others : List Token) :
    Except SyntaxError Select → Except SyntaxError Select → Prop
  | accepted {tree other : Select} :
      tree.relocate (tokenIndexAt tokens) = other.relocate (tokenIndexAt others) →
      SameOutcome tokens others (.ok tree) (.ok other)
  | rejected {error other : SyntaxError} :
      error.reason = other.reason → error.expected? = other.expected? →
      error.found? = other.found? →
      error.span.relocate (tokenIndexAt tokens) = other.span.relocate (tokenIndexAt others) →
      SameOutcome tokens others (.error error) (.error other)

/-- Two texts whose tokens are of the same kinds, where of two bare names both or neither is that of
an aggregate, make trees that differ in their offsets only, or fail alike at the same token. -/
theorem parse_sees_kinds (source other : Text)
    (same : List.Forall₂ Token.SameKind (tokenize source) (tokenize other)) :
    SameOutcome (tokenize source) (tokenize other) (parse source) (parse other) := by
  have outlined := parse_outline same
  have otherOutlined := parse_outline (List.forall₂_same.mpr fun token _ => Token.SameKind.refl token :
    List.Forall₂ Token.SameKind (tokenize other) (tokenize other))
  have indices := tokenIndexAt_comp source same.length_eq
  have otherIndices := tokenIndexAt_comp other rfl
  rw [outlined, otherOutlined]
  rcases (Parse.statement (Cursor.ofTokens (outline (tokenize other)))).1 with error | tree
  · refine .rejected ?_ ?_ ?_ ?_
    · simp
    · simp
    · simp
    · simp [indices, otherIndices]
  · refine .accepted ?_
    rw [Select.relocate_relocate, Select.relocate_relocate, indices, otherIndices]

/-- The text of the example below with other blanks, names and contents. -/
def respelled : Text := "SELECT -- which?\n  every_one ,'it''s'FROM t1".toList

/-- A comment, names and a string of other lengths change nothing but offsets. -/
theorem parse_sees_kinds_respelled :
    List.Forall₂ Token.SameKind (tokenize "SELECT a, 'b' FROM t".toList) (tokenize respelled) ∧
      SameOutcome (tokenize "SELECT a, 'b' FROM t".toList) (tokenize respelled)
        (parse "SELECT a, 'b' FROM t".toList) (parse respelled) := by
  have same : List.Forall₂ Token.SameKind (tokenize "SELECT a, 'b' FROM t".toList)
      (tokenize respelled) := by decide +kernel
  exact ⟨same, parse_sees_kinds _ _ same⟩

end Grammar

end AnnotatedSql
