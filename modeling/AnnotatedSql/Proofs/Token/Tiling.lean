/-
This file shows that the tokens of a text leave out nothing but blanks and comments: gaps and tokens
lie side by side from the first byte to the last.
-/

import AnnotatedSql.Proofs.Token.Layout
import AnnotatedSql.Proofs.Token.Quotation
import Mathlib.Data.List.Infix

namespace AnnotatedSql

/-! ### Gaps -/

/-- What may lie between tokens: blanks, comments up to the end of their line, and comments up to the
first closing mark. At the end of the text a comment may also just stop. -/
inductive Gap (atEnd : Bool) : Text → Prop
  | nil : Gap atEnd []
  | blank {character rest} : isBlank character → Gap atEnd rest → Gap atEnd (character :: rest)
  | line {comment rest} :
      '\n' ∉ comment → rest.head? = some '\n' → Gap atEnd rest →
      Gap atEnd ('-' :: '-' :: comment ++ rest)
  | block {comment rest} :
      ¬ ['*', '/'] <:+: comment ++ ['*'] → Gap atEnd rest →
      Gap atEnd ('/' :: '*' :: comment ++ '*' :: '/' :: rest)
  | lastLine {comment} : atEnd → '\n' ∉ comment → Gap atEnd ('-' :: '-' :: comment)
  | openBlock {comment} : atEnd → ¬ ['*', '/'] <:+: comment → Gap atEnd ('/' :: '*' :: comment)

namespace Trivia

/-- A closing mark that starts with the first character lies at the start. -/
theorem closing_infix_cons {character : Char} {rest : Text}
    (found : ['*', '/'] <:+: character :: rest) :
    (character = '*' ∧ ∃ after, rest = '/' :: after) ∨ ['*', '/'] <:+: rest := by
  rcases List.infix_cons_iff.mp found with ⟨after, whole⟩ | later
  · rw [List.cons_append, List.cons.injEq] at whole
    exact .inl ⟨whole.1.symm, after, whole.2.symm⟩
  · exact .inr later

/-- A block comment is closed by the first closing mark, or goes on to the end. -/
theorem splitBlockComment_cases (text : Text) :
    (∃ comment, (splitBlockComment text).1 = comment ++ ['*', '/'] ∧
        ¬ ['*', '/'] <:+: comment ++ ['*']) ∨
      (splitBlockComment text).2 = [] ∧ ¬ ['*', '/'] <:+: (splitBlockComment text).1 := by
  fun_induction splitBlockComment text with
  | case1 => exact .inr ⟨rfl, by decide⟩
  | case2 rest => exact .inl ⟨[], rfl, by decide⟩
  | case3 character rest other split ih =>
      have whole : split.1 ++ split.2 = rest := splitBlockComment_append rest
      rcases ih with ⟨comment, closed, none⟩ | ⟨open_, none⟩
      · refine .inl ⟨character :: comment, by rw [closed]; rfl, ?_⟩
        intro found
        rcases closing_infix_cons found with ⟨star, after, slash⟩ | later
        · cases comment with
          | nil => cases slash
          | cons first more =>
              rw [List.append_eq, List.cons_append, List.cons.injEq] at slash
              rw [closed, slash.1] at whole
              exact other _ star whole.symm
        · exact none later
      · refine .inr ⟨open_, ?_⟩
        intro found
        rcases closing_infix_cons found with ⟨star, after, slash⟩ | later
        · rw [slash] at whole
          exact other _ star whole.symm
        · exact none later

/-- A character that starts neither a blank nor a comment is not skipped. -/
theorem split_of_more {first : Char} (rest : Text) (blank : isBlank first = false)
    (minus : first ≠ '-') (slash : first ≠ '/') : split (first :: rest) = ([], first :: rest) := by
  rw [split, if_neg (by rw [blank]; decide)]
  · intro _ same
    exact absurd same minus
  · intro _ same
    exact absurd same slash

theorem split_blank {first : Char} (rest : Text) (blank : isBlank first = true) :
    split (first :: rest) = (first :: (split rest).1, (split rest).2) := by
  rw [split, if_pos blank]
  · rintro _ rfl
    exact absurd blank (by decide)
  · rintro _ rfl
    exact absurd blank (by decide)

/-- What is skipped in front of a token, or of the end, is a gap. -/
theorem split_gap (text : Text) : Gap (split text).2.isEmpty (split text).1 := by
  fun_induction split text with
  | case1 => exact .nil
  | case2 rest after ih =>
      have comment : '\n' ∉ rest.takeWhile (· != '\n') := by
        intro member
        have all := List.all_eq_true.mp (List.all_takeWhile (p := (· != '\n')) (l := rest)) _ member
        exact absurd all (by decide)
      rcases behind : rest.dropWhile (· != '\n') with _ | ⟨next, further⟩
      · have nothing : after = ([], []) := by
          simp only [after, behind]
          rw [split]
        rw [nothing, List.append_nil]
        exact .lastLine rfl comment
      · have feed : next = '\n' := by
          have stops := List.head?_dropWhile_not (· != '\n') rest
          rw [behind] at stops
          simpa using stops
        have opened : after.1.head? = some '\n' := by
          simp only [after, behind, feed]
          rw [split_blank _ (by decide)]
          rfl
        exact .line comment opened ih
  | case3 rest after ih =>
      rcases splitBlockComment_cases rest with ⟨comment, closed, none⟩ | ⟨open_, none⟩
      · rw [closed]
        have whole : '/' :: '*' :: (comment ++ ['*', '/']) ++ after.1 =
            '/' :: '*' :: comment ++ '*' :: '/' :: after.1 := by simp
        rw [whole]
        exact .block none ih
      · have nothing : after = ([], []) := by
          simp only [after, open_]
          rw [split]
        rw [nothing, List.append_nil]
        exact .openBlock rfl none
  | case4 character rest _ _ blank after ih => exact .blank blank ih
  | case5 => exact .nil

end Trivia

/-! ### Tokens and gaps side by side -/

/-- From the offset on, the text consists of the tokens, each behind a gap, and of a last gap before
the end. -/
inductive Tiled : Nat → Text → List Token → Prop
  | ending {offset : Nat} {gap : Text} :
      Gap true gap → Tiled offset gap [Token.ending (offset + gap.byteLength)]
  | token {offset : Nat} {gap text rest : Text} {kind tokens} :
      Gap false gap → text ≠ [] → kind ≠ .endOfInput →
      Tiled (offset + gap.byteLength + text.byteLength) rest tokens →
      Tiled offset (gap ++ text ++ rest)
        (Token.placed kind text (offset + gap.byteLength) :: tokens)

namespace Reader

variable {reader : Reader}

/-- Where no lexeme follows the gap, nothing does. -/
theorem unread_eq_of_none (nothing : Lexeme.first? (Trivia.split reader.unread).2 = none) :
    (Trivia.split reader.unread).2 = [] := by
  cases left : (Trivia.split reader.unread).2 with
  | nil => rfl
  | cons first rest =>
      rw [left] at nothing
      cases nothing

theorem next_none (nothing : Lexeme.first? (Trivia.split reader.unread).2 = none) :
    reader.next = (Token.ending (reader.offset + (Trivia.split reader.unread).1.byteLength),
      ⟨reader.offset + (Trivia.split reader.unread).1.byteLength, []⟩) := by
  rw [next]
  simp only [unread_eq_of_none nothing]
  rfl

theorem next_some {lexeme : Lexeme}
    (found : Lexeme.first? (Trivia.split reader.unread).2 = some lexeme) :
    reader.next =
      (Token.placed lexeme.kind lexeme.text
        (reader.offset + (Trivia.split reader.unread).1.byteLength),
        ⟨reader.offset + (Trivia.split reader.unread).1.byteLength + lexeme.text.byteLength,
          lexeme.rest⟩) := by
  rw [next]
  simp only [found]

/-- The first token and those of the reader behind it. -/
theorem tokens_some {lexeme : Lexeme}
    (found : Lexeme.first? (Trivia.split reader.unread).2 = some lexeme) :
    reader.tokens =
      Token.placed lexeme.kind lexeme.text
        (reader.offset + (Trivia.split reader.unread).1.byteLength) ::
      tokens ⟨reader.offset + (Trivia.split reader.unread).1.byteLength + lexeme.text.byteLength,
        lexeme.rest⟩ := by
  have more : reader.next.1.kind ≠ .endOfInput := by
    rw [next_some found]
    exact Lexeme.first_more found
  rw [tokens, dif_neg more, next_some found]

theorem next_nil (offset : Nat) : next ⟨offset, []⟩ = (Token.ending offset, ⟨offset, []⟩) := by
  rw [next, Trivia.split]
  rfl

theorem tokens_nil (offset : Nat) : tokens ⟨offset, []⟩ = [Token.ending offset] := by
  rw [tokens, next_nil]
  rfl

/-- The end of the input is read exactly where nothing but a gap is left. -/
theorem next_ends (atEnd : reader.next.1.kind = .endOfInput) :
    Lexeme.first? (Trivia.split reader.unread).2 = none := by
  cases found : Lexeme.first? (Trivia.split reader.unread).2 with
  | none => rfl
  | some lexeme =>
      rw [next_some found] at atEnd
      exact absurd atEnd (Lexeme.first_more found)

/-- The tokens of a reader lie side by side with the gaps between them. -/
theorem tokens_tiled (reader : Reader) : Tiled reader.offset reader.unread reader.tokens := by
  fun_induction tokens reader with
  | case1 reader atEnd =>
      have nothing := next_ends atEnd
      have gap := Trivia.split_gap reader.unread
      have whole := Trivia.split_append reader.unread
      rw [unread_eq_of_none nothing] at gap whole
      rw [List.append_nil] at whole
      rw [next_none nothing]
      generalize (Trivia.split reader.unread).1 = skipped at gap whole
      rw [← whole]
      exact .ending gap
  | case2 reader more ih =>
      cases found : Lexeme.first? (Trivia.split reader.unread).2 with
      | none =>
          rw [next_none found] at more
          exact absurd rfl more
      | some lexeme =>
          obtain ⟨splits, nonempty⟩ := Lexeme.first_splits _ lexeme found
          have gap := Trivia.split_gap reader.unread
          have whole := Trivia.split_append reader.unread
          have left : (Trivia.split reader.unread).2.isEmpty = false := by
            cases empty : (Trivia.split reader.unread).2 with
            | nil =>
                rw [empty] at found
                cases found
            | cons first rest => rfl
          rw [left] at gap
          rw [← splits, ← List.append_assoc] at whole
          rw [next_some found] at ih ⊢
          generalize (Trivia.split reader.unread).1 = skipped at gap whole ih
          rw [← whole]
          exact .token gap nonempty (Lexeme.first_more found) ih

/-- Every token but the end of the input is a lexeme with its place. -/
theorem tokens_lexeme (reader : Reader) :
    ∀ token ∈ reader.tokens, token.kind ≠ .endOfInput →
      ∃ text lexeme, Lexeme.first? text = some lexeme ∧ token.kind = lexeme.kind ∧
        token.text = lexeme.text := by
  fun_induction tokens reader with
  | case1 reader atEnd =>
      intro token member more
      rw [List.mem_singleton.mp member] at more
      exact absurd atEnd more
  | case2 reader more ih =>
      intro token member notEnd
      rcases List.mem_cons.mp member with rfl | later
      · cases found : Lexeme.first? (Trivia.split reader.unread).2 with
        | none =>
            rw [next_none found] at more
            exact absurd rfl more
        | some lexeme =>
            rw [next_some found]
            exact ⟨_, lexeme, found, rfl, rfl⟩
      · exact ih token later notEnd

/-- The reader after so many tokens were asked for. -/
def skip (reader : Reader) : Nat → Reader
  | 0 => reader
  | count + 1 => reader.next.2.skip count

/-- At the end every further token is the end again. -/
theorem skip_end (offset calls : Nat) :
    (skip ⟨offset, []⟩ calls).next.1 = Token.ending offset := by
  induction calls with
  | zero => rw [skip, next_nil]
  | succ calls ih =>
      rw [skip, next_nil]
      exact ih

theorem tokens_ne_nil (reader : Reader) : reader.tokens ≠ [] := by
  rw [tokens]
  split <;> exact List.cons_ne_nil _ _

/-- Tokens asked for one by one are the tokens of the reader, and then the last one again. -/
theorem skip_next (reader : Reader) (fallback : Token) (calls : Nat) :
    (reader.skip calls).next.1 =
      reader.tokens.getD calls (reader.tokens.getLastD fallback) := by
  fun_induction tokens reader generalizing calls with
  | case1 reader atEnd =>
      cases calls with
      | zero => rfl
      | succ calls =>
          rw [skip, next_none (next_ends atEnd), skip_end]
          rfl
  | case2 reader more ih =>
      cases calls with
      | zero => rfl
      | succ calls =>
          rw [skip, ih, List.getD_cons_succ, List.getLastD_cons]
          obtain ⟨initial, last, whole⟩ :=
            (List.eq_nil_or_concat' reader.next.2.tokens).resolve_left (tokens_ne_nil _)
          rw [whole, List.getLastD_concat, List.getLastD_concat]

end Reader

/-! ### The tokens of a source -/

/-- Behind all gaps and tokens lies the end of the text. -/
theorem Tiled.last {offset : Nat} {text : Text} {tokens : List Token}
    (tiled : Tiled offset text tokens) :
    ∃ content, tokens = content ++ [Token.ending (offset + text.byteLength)] ∧
      ∀ token ∈ content, token.kind ≠ .endOfInput := by
  induction tiled with
  | ending => exact ⟨[], rfl, nofun⟩
  | @token offset gap text rest kind tokens _ _ more _ ih =>
      obtain ⟨content, whole, others⟩ := ih
      refine ⟨Token.placed kind text (offset + gap.byteLength) :: content, ?_, ?_⟩
      · rw [whole]
        simp [Nat.add_assoc]
      · intro token member
        rcases List.mem_cons.mp member with rfl | later
        · exact more
        · exact others token later

theorem tokenize_lexeme (source : Text) :
    ∀ token ∈ tokenize source, token.kind ≠ .endOfInput →
      ∃ text lexeme, Lexeme.first? text = some lexeme ∧ token.kind = lexeme.kind ∧
        token.text = lexeme.text :=
  (Reader.ofSource source).tokens_lexeme

theorem tokenize_tiled (source : Text) : Tiled 0 source (tokenize source) :=
  (Reader.ofSource source).tokens_tiled

/-- The end of the input comes last, and only there. -/
theorem tokenize_ending (source : Text) :
    ∃ content, tokenize source = content ++ [Token.ending source.byteLength] ∧
      ∀ token ∈ content, token.kind ≠ .endOfInput := by
  obtain ⟨content, whole, others⟩ := (tokenize_tiled source).last
  rw [Nat.zero_add] at whole
  exact ⟨content, whole, others⟩

/-- Every text is cut into tokens that lie in order, inside the text and between characters; around
them is nothing but gaps; last comes the end of the input, which is read again however often one asks. -/
theorem tokenize_tiles (source : Text) :
    Tiled 0 source (tokenize source) ∧
      (∃ content, tokenize source = content ++ [Token.ending source.byteLength] ∧
        ∀ token ∈ content, token.kind ≠ .endOfInput ∧ token.span.Fits source) ∧
      (tokenize source).Pairwise Token.Precedes ∧
      ∀ calls, ((Reader.ofSource source).skip calls).next.1 =
        (tokenize source).getD calls (Token.ending source.byteLength) := by
  obtain ⟨content, whole, others⟩ := tokenize_ending source
  refine ⟨tokenize_tiled source, ⟨content, whole, ?_⟩, (Reader.ofSource source).tokens_ordered.2, ?_⟩
  · intro token member
    have more := others token member
    have stands := tokenize_stands source token (by rw [whole]; simp [member]) more
    exact ⟨more, Span.fits_of_boundaries stands.extent stands.starts stands.stops⟩
  · intro calls
    have read := (Reader.ofSource source).skip_next (Token.ending 0) calls
    change _ = (tokenize source).getD calls ((tokenize source).getLastD _) at read
    rw [read, whole, List.getLastD_concat]

end AnnotatedSql
