/-
This file shows that the text under some tokens that follow each other has just these tokens when it
is read by itself: the lexer may start and stop between tokens.
-/

import AnnotatedSql.Proofs.Grammar.Locality.Relocation
import AnnotatedSql.Proofs.Token.Cut

namespace AnnotatedSql

namespace Reader

/-! ### From one place to another -/

/-- The reader gives the tokens on its way to the later place. -/
inductive Yields : Reader → List Token → Reader → Prop
  | refl {reader : Reader} : Yields reader [] reader
  | token {reader later : Reader} {rest : List Token} :
      reader.next.1.kind ≠ .endOfInput → Yields reader.next.2 rest later →
      Yields reader (reader.next.1 :: rest) later

variable {reader later : Reader} {inside before after : List Token} {short dropped kept : Text}

theorem Yields.cons {token : Token} {next : Reader} (read : reader.next = (token, next))
    (more : token.kind ≠ .endOfInput) (yields : next.Yields inside later) :
    reader.Yields (token :: inside) later := by
  have notEnd : reader.next.1.kind ≠ .endOfInput := by
    rw [read]
    exact more
  have step := Yields.token notEnd (by rw [read]; exact yields)
  rw [read] at step
  exact step

/-- Behind the first tokens of a reader it goes on with the others. -/
theorem exists_yields (whole : reader.tokens = before ++ after)
    (more : ∀ token ∈ before, token.kind ≠ .endOfInput) :
    ∃ later, reader.Yields before later ∧ later.tokens = after := by
  induction before generalizing reader with
  | nil => exact ⟨reader, .refl, whole⟩
  | cons first rest ih =>
      have notEnd := more _ List.mem_cons_self
      rw [tokens] at whole
      split at whole
      · next atEnd =>
          obtain ⟨rfl, _⟩ := List.cons.inj whole
          exact absurd atEnd notEnd
      · obtain ⟨rfl, behind⟩ := List.cons.inj whole
        obtain ⟨later, yields, others⟩ :=
          ih behind fun token member => more token (List.mem_cons_of_mem _ member)
        exact ⟨later, .token notEnd yields, others⟩

theorem Yields.tokens_eq (yields : reader.Yields inside later) :
    reader.tokens = inside ++ later.tokens := by
  induction yields with
  | refl => rfl
  | token more _ ih => rw [tokens, dif_neg more, ih, List.cons_append]

/-- A token that is not the end of the input is a lexeme behind a gap. -/
theorem exists_lexeme (more : reader.next.1.kind ≠ .endOfInput) :
    ∃ lexeme, Lexeme.first? (Trivia.split reader.unread).2 = some lexeme := by
  cases found : Lexeme.first? (Trivia.split reader.unread).2 with
  | some lexeme => exact ⟨lexeme, rfl⟩
  | none =>
      rw [next_none found] at more
      exact absurd rfl more

/-- On its way a reader comes as far as the text is long that it reads. -/
theorem Yields.reaches (yields : reader.Yields inside later) :
    ∃ read, reader.unread = read ++ later.unread ∧
      later.offset = reader.offset + read.byteLength := by
  induction yields with
  | refl => exact ⟨[], rfl, rfl⟩
  | @token reader later rest more _ ih =>
      obtain ⟨read, unread, offset⟩ := ih
      obtain ⟨lexeme, found⟩ := exists_lexeme more
      have trivia := Trivia.split_append reader.unread
      have splits := (Lexeme.first_splits _ lexeme found).1
      rw [next_some found] at unread offset
      dsimp only at unread offset
      refine ⟨(Trivia.split reader.unread).1 ++ lexeme.text ++ read, ?_, ?_⟩
      · rw [List.append_assoc, List.append_assoc, ← unread, splits, trivia]
      · rw [offset, Text.byteLength_append, Text.byteLength_append]
        omega

/-- A text that is cut off behind the tokens has the same tokens. -/
theorem Yields.cut (yields : reader.Yields inside later) (unread : reader.unread = short ++ dropped)
    (left : later.unread = kept ++ dropped) :
    Yields ⟨reader.offset, short⟩ inside ⟨later.offset, kept⟩ := by
  induction yields generalizing short with
  | @refl reader =>
      obtain rfl := List.append_cancel_right (unread.symm.trans left)
      exact .refl
  | @token reader later rest more yields ih =>
      obtain ⟨lexeme, found⟩ := exists_lexeme more
      obtain ⟨read, behind, _⟩ := yields.reaches
      rw [left, ← List.append_assoc] at behind
      have ahead := ih behind left
      rw [next_some found] at behind ahead ⊢
      dsimp only at behind ahead ⊢
      have trivia : (Trivia.split reader.unread).2 = (lexeme.text ++ (read ++ kept)) ++ dropped := by
        rw [← (Lexeme.first_splits _ lexeme found).1, behind, List.append_assoc lexeme.text]
      have skipped := Trivia.split_cut unread.symm trivia
      rw [trivia] at found
      have first : Lexeme.first? (Trivia.split short).2 = some (lexeme.followedBy (read ++ kept)) := by
        rw [skipped]
        exact Lexeme.first_cut found behind
      have step : next ⟨reader.offset, short⟩ = (Token.placed lexeme.kind lexeme.text
          (reader.offset + (Trivia.split reader.unread).1.byteLength),
          ⟨reader.offset + (Trivia.split reader.unread).1.byteLength + lexeme.text.byteLength,
            read ++ kept⟩) := by
        rw [next_some first, skipped]
        rfl
      exact .cons step (Lexeme.first_more found) ahead

/-- Some tokens end where the reader goes on. -/
theorem Yields.stop (yields : reader.Yields inside later) (nonempty : inside ≠ []) :
    ∃ stop, Grammar.stopOf? inside = some stop ∧ later.offset = stop + 1 := by
  induction yields with
  | refl => exact absurd rfl nonempty
  | @token reader later rest more yields ih =>
      cases yields with
      | refl =>
          obtain ⟨lexeme, found⟩ := exists_lexeme more
          have positive := Text.byteLength_pos (Lexeme.first_splits _ lexeme found).2
          refine ⟨reader.next.1.span.stop, rfl, ?_⟩
          rw [next_some found]
          simp only [Token.placed, Span.ofRange]
          omega
      | token =>
          obtain ⟨stop, found, offset⟩ := ih (List.cons_ne_nil _ _)
          refine ⟨stop, ?_, offset⟩
          rw [← found, Grammar.stopOf?, Grammar.stopOf?, List.getLast?_cons_cons]

/-! ### Other starts -/

/-- Where a gap is skipped, the reader may as well start behind it. -/
theorem tokens_behind (reader : Reader) :
    tokens ⟨reader.offset + (Trivia.split reader.unread).1.byteLength,
      (Trivia.split reader.unread).2⟩ = reader.tokens := by
  have same : next ⟨reader.offset + (Trivia.split reader.unread).1.byteLength,
      (Trivia.split reader.unread).2⟩ = reader.next := by
    rw [next, next, Trivia.split_behind]
    rfl
  rw [tokens, same, ← tokens]

/-- Read at another offset, a text has its tokens there. -/
theorem next_relocate (reader : Reader) (start : Nat) :
    next ⟨reader.offset + start, reader.unread⟩ =
      (reader.next.1.relocate (· + start), ⟨reader.next.2.offset + start, reader.next.2.unread⟩) := by
  cases found : Lexeme.first? (Trivia.split reader.unread).2 with
  | none =>
      have moved : next ⟨reader.offset + start, reader.unread⟩ = _ := next_none found
      rw [moved, next_none found]
      simp [Token.ending, Token.relocate, Span.relocate, Nat.add_right_comm]
  | some lexeme =>
      have positive := Text.byteLength_pos (Lexeme.first_splits _ lexeme found).2
      have moved : next ⟨reader.offset + start, reader.unread⟩ = _ := next_some found
      rw [moved, next_some found]
      simp [Token.placed, Token.relocate, Span.relocate, Span.ofRange, Nat.add_right_comm]
      omega

theorem tokens_relocate (reader : Reader) (start : Nat) :
    tokens ⟨reader.offset + start, reader.unread⟩ =
      reader.tokens.map (Token.relocate (· + start)) := by
  fun_induction tokens reader with
  | case1 reader atEnd =>
      rw [tokens, next_relocate, dif_pos]
      · rfl
      · exact atEnd
  | case2 reader more ih =>
      rw [tokens, next_relocate, dif_neg]
      · rw [List.map_cons, ih]
      · exact more

/-- Tokens without a gap in front of them cover what is read on the way. -/
theorem Yields.cover (yields : reader.Yields inside later) (nonempty : inside ≠ [])
    (gapless : (Trivia.split reader.unread).1 = []) :
    Grammar.cover inside = Span.ofRange reader.offset later.offset := by
  obtain ⟨stop, found, reached⟩ := yields.stop nonempty
  cases yields with
  | refl => exact absurd rfl nonempty
  | @token _ _ rest more yields =>
      obtain ⟨lexeme, lexed⟩ := exists_lexeme more
      have start : reader.next.1.span.start = reader.offset := by
        rw [next_some lexed, gapless]
        rfl
      obtain ⟨_, _, onward⟩ := yields.reaches
      have extent := reader.next_span
      have beyond := extent.2.2 more
      rw [Grammar.cover, found, Grammar.startOf, List.head?_cons]
      simp only [Span.ofRange, Option.map_some, Option.getD_some, start, Span.mk.injEq, true_and]
      omega

/-- The text of some tokens has these tokens when it is read by itself. -/
theorem Yields.alone {start stop : Nat} {text : Text}
    (yields : Yields ⟨start, text ++ dropped⟩ inside ⟨stop, dropped⟩) :
    ∃ own, tokenize text = own ++ [Token.ending text.byteLength] ∧
      inside = own.map (Token.relocate (· + start)) := by
  obtain ⟨own, whole, _⟩ := (tokens_tiled (ofSource text)).last
  rw [ofSource, Nat.zero_add] at whole
  refine ⟨own, whole, ?_⟩
  have read := (yields.cut rfl (List.nil_append dropped).symm).tokens_eq
  have moved := tokens_relocate (ofSource text) start
  rw [ofSource, whole, List.map_append, List.map_singleton] at moved
  dsimp only at read moved
  rw [Nat.zero_add, read, tokens_nil] at moved
  exact (List.append_inj' moved rfl).1

end Reader

/-- Some tokens that follow each other in a source, with the text under them and around them. -/
structure TextUnder (source : Text) (before inside after : List Token) where
  /-- The text of the tokens in front. -/
  read : Text
  gap : Text
  text : Text
  behind : Text
  whole : source = read ++ gap ++ (text ++ behind)
  upTo : Reader.Yields ⟨0, source⟩ before ⟨read.byteLength, gap ++ (text ++ behind)⟩
  skipped : Trivia.split (gap ++ (text ++ behind)) = (gap, text ++ behind)
  yields : Reader.Yields ⟨(read ++ gap).byteLength, text ++ behind⟩ inside
    ⟨(read ++ gap).byteLength + text.byteLength, behind⟩
  others : Reader.tokens ⟨(read ++ gap).byteLength + text.byteLength, behind⟩ = after

variable {source : Text} {before inside after : List Token}

namespace TextUnder

variable (under : TextUnder source before inside after)

/-- The source up to the text. -/
def front : Text := under.read ++ under.gap

theorem parts : source = under.front ++ under.text ++ under.behind := by
  refine under.whole.trans ?_
  rw [front, List.append_assoc (under.read ++ under.gap)]

theorem cover (nonempty : inside ≠ []) : Grammar.cover inside =
    Span.ofRange under.front.byteLength (under.front.byteLength + under.text.byteLength) := by
  refine under.yields.cover nonempty ?_
  have behind := Trivia.split_behind (under.gap ++ (under.text ++ under.behind))
  rw [under.skipped] at behind
  rw [behind]

end TextUnder

theorem exists_textUnder (whole : tokenize source = before ++ (inside ++ after))
    (more : ∀ token ∈ before ++ inside, token.kind ≠ .endOfInput) :
    Nonempty (TextUnder source before inside after) := by
  obtain ⟨first, upTo, others⟩ := Reader.exists_yields whole fun token member =>
    more token (List.mem_append_left _ member)
  obtain ⟨read, unread, offset⟩ := upTo.reaches
  obtain ⟨start, unreadFirst⟩ := first
  rw [← Reader.tokens_behind] at others
  obtain ⟨⟨stop, behind⟩, yields, others⟩ := Reader.exists_yields others fun token member =>
    more token (List.mem_append_right _ member)
  obtain ⟨text, ahead, reached⟩ := yields.reaches
  have trivia := Trivia.split_append unreadFirst
  dsimp only at unread offset ahead reached others yields
  rw [ahead] at trivia yields
  obtain rfl : start = read.byteLength := offset.trans (Nat.zero_add _)
  rw [← Text.byteLength_append] at yields reached
  subst reached
  refine ⟨⟨read, (Trivia.split unreadFirst).1, text, behind, ?_, ?_, ?_, yields, others⟩⟩
  · rw [List.append_assoc, trivia, ← unread]
    rfl
  · rw [trivia]
    exact upTo
  · rw [trivia, ← ahead]

/-- The tokens that follow each other in a source are those of the text under them, which stands
there behind some other text. -/
theorem tokenize_excerpt (whole : tokenize source = before ++ (inside ++ after))
    (nonempty : inside ≠ []) (more : ∀ token ∈ before ++ inside, token.kind ≠ .endOfInput) :
    ∃ front text behind own, source = front ++ text ++ behind ∧
      Grammar.cover inside = Span.ofRange front.byteLength (front.byteLength + text.byteLength) ∧
      tokenize text = own ++ [Token.ending text.byteLength] ∧
      inside = own.map (Token.relocate (· + front.byteLength)) := by
  obtain ⟨under⟩ := exists_textUnder whole more
  obtain ⟨own, alone, moved⟩ := under.yields.alone
  exact ⟨under.front, under.text, under.behind, own, under.parts, under.cover nonempty, alone, moved⟩

end AnnotatedSql
