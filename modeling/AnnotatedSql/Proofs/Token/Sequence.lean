/-
This file shows how the tokens of a text lie: one after the other, with the end of the input last.
-/

import AnnotatedSql.Token.Reader

namespace AnnotatedSql

theorem Text.byteLength_pos {text : Text} (nonempty : text ≠ []) : 0 < text.byteLength := by
  obtain ⟨first, rest, rfl⟩ := List.exists_cons_of_ne_nil nonempty
  have positive := first.utf8Size_pos
  rw [Text.byteLength_cons]
  omega

/-- No token reaches into the one after it. -/
def Token.Precedes (first second : Token) : Prop := first.span.stop < second.span.start

namespace Reader

/-- A token starts no earlier than its reader, and a reader goes on behind the token. -/
theorem next_span (reader : Reader) :
    reader.offset ≤ reader.next.1.span.start ∧
      reader.next.1.span.start ≤ reader.next.1.span.stop ∧
      (reader.next.1.kind ≠ .endOfInput →
        reader.next.1.span.stop < reader.next.2.offset) := by
  unfold next
  dsimp only
  split
  · simp [Token.ending]
  · rename_i lexeme found
    obtain ⟨_, nonempty⟩ := Lexeme.first_splits _ lexeme found
    have positive := Text.byteLength_pos nonempty
    simp only [Token.placed, Span.ofRange]
    omega

/-- Exactly the last token is the end of the input. -/
theorem tokens_end (reader : Reader) :
    ∃ content ending, reader.tokens = content ++ [ending] ∧ ending.kind = .endOfInput ∧
      ∀ token ∈ content, token.kind ≠ .endOfInput := by
  fun_induction tokens reader with
  | case1 reader atEnd => exact ⟨[], _, rfl, atEnd, by simp⟩
  | case2 reader more ih =>
      obtain ⟨content, ending, whole, last, others⟩ := ih
      refine ⟨reader.next.1 :: content, ending, by rw [whole]; rfl, last, ?_⟩
      intro token member
      rcases List.mem_cons.mp member with rfl | member
      · exact more
      · exact others token member

/-- The tokens lie behind the start of their reader and in order, none of them without extent. -/
theorem tokens_ordered (reader : Reader) :
    (∀ token ∈ reader.tokens,
      reader.offset ≤ token.span.start ∧ token.span.start ≤ token.span.stop) ∧
      reader.tokens.Pairwise Token.Precedes := by
  fun_induction tokens reader with
  | case1 reader atEnd =>
      have span := reader.next_span
      simp [span.1, span.2.1]
  | case2 reader more ih =>
      have span := reader.next_span
      have behind := span.2.2 more
      obtain ⟨each, ordered⟩ := ih
      constructor
      · intro token member
        rcases List.mem_cons.mp member with rfl | member
        · exact ⟨span.1, span.2.1⟩
        · have later := each token member
          omega
      · rw [List.pairwise_cons]
        refine ⟨?_, ordered⟩
        intro token member
        have later := each token member
        rw [Token.Precedes]
        omega

end Reader

/-- Of the tokens of a source exactly the last one is the end of the input. -/
theorem tokenize_end (source : Text) :
    ∃ content ending, tokenize source = content ++ [ending] ∧ ending.kind = .endOfInput ∧
      ∀ token ∈ content, token.kind ≠ .endOfInput :=
  (Reader.ofSource source).tokens_end

end AnnotatedSql
