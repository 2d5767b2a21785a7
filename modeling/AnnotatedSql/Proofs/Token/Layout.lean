/-
This file shows that every token stands in the source with its text, whatever the size of the
characters around it.
-/

import AnnotatedSql.Proofs.Token.Sequence

namespace AnnotatedSql

/-! ### Offsets between characters -/

/-- The offset lies between two characters of the source, or at one of its ends. -/
def Text.Boundary (source : Text) (offset : Nat) : Prop :=
  ∃ before after, source = before ++ after ∧ offset = before.byteLength

/-- The span is not empty, lies inside the source and splits no character. -/
def Span.Fits (span : Span) (source : Text) : Prop :=
  span.start ≤ span.stop ∧ (span.text? source).isSome

/-- A span that starts and stops between characters has a text. -/
theorem Span.fits_of_boundaries {span : Span} {source : Text} (extent : span.start ≤ span.stop)
    (starts : source.Boundary span.start) (stops : source.Boundary (span.stop + 1)) :
    span.Fits source := by
  obtain ⟨start, stop⟩ := span
  obtain ⟨before, behind, whole, rfl⟩ := starts
  obtain ⟨upTo, after, sameWhole, reach⟩ := stops
  dsimp only at extent reach
  refine ⟨extent, ?_⟩
  rcases List.append_eq_append_iff.mp (whole.symm.trans sameWhole) with
    ⟨middle, rfl, _⟩ | ⟨excess, rfl, _⟩
  · rw [Text.byteLength_append] at reach
    have found := Span.text_of_parts before middle after (by omega)
    have same : Span.ofRange before.byteLength (before.byteLength + Text.byteLength middle) =
        ⟨before.byteLength, stop⟩ := by
      rw [Span.ofRange, ← reach]
      rfl
    rw [← sameWhole, same] at found
    rw [found]
    rfl
  · rw [Text.byteLength_append] at extent
    omega

theorem Text.dropBytes_parts {count : Nat} {text rest : Text}
    (found : text.dropBytes? count = some rest) :
    ∃ start, text = start ++ rest ∧ start.byteLength = count := by
  fun_induction Text.dropBytes? count text with
  | case1 =>
      obtain rfl := Option.some.inj found
      exact ⟨[], rfl, rfl⟩
  | case2 => cases found
  | case3 count character behind fits ih =>
      obtain ⟨start, rfl, length⟩ := ih found
      refine ⟨character :: start, rfl, ?_⟩
      rw [Text.byteLength_cons, length]
      omega
  | case4 => cases found

theorem Text.takeBytes_parts {count : Nat} {text start : Text}
    (found : text.takeBytes? count = some start) :
    ∃ rest, text = start ++ rest ∧ start.byteLength = count := by
  fun_induction Text.takeBytes? count text generalizing start with
  | case1 =>
      obtain rfl := Option.some.inj found
      exact ⟨_, rfl, rfl⟩
  | case2 => cases found
  | case3 count character behind fits ih =>
      obtain ⟨more, taken, rfl⟩ := Option.map_eq_some_iff.mp found
      obtain ⟨rest, rfl, length⟩ := ih taken
      refine ⟨rest, rfl, ?_⟩
      rw [Text.byteLength_cons, length]
      omega
  | case4 => cases found

/-- A span that fits a text lies over the middle of it. -/
theorem Span.Fits.parts {span : Span} {text : Text} (fits : span.Fits text) :
    ∃ before middle after, text = before ++ middle ++ after ∧ 0 < middle.byteLength ∧
      span = Span.ofRange before.byteLength (before.byteLength + middle.byteLength) := by
  obtain ⟨start, stop⟩ := span
  obtain ⟨extent, found⟩ := fits
  obtain ⟨middle, found⟩ := Option.isSome_iff_exists.mp found
  dsimp only at extent
  rw [Span.text?, if_pos (Nat.le_succ_of_le extent)] at found
  obtain ⟨rest, dropped, taken⟩ := Option.bind_eq_some_iff.mp found
  obtain ⟨before, rfl, starts⟩ := Text.dropBytes_parts dropped
  obtain ⟨after, rfl, length⟩ := Text.takeBytes_parts taken
  dsimp only at starts length
  refine ⟨before, middle, after, (List.append_assoc ..).symm, by omega, ?_⟩
  rw [Span.ofRange, Span.mk.injEq]
  omega

theorem Span.Fits.text_nonempty {span : Span} {text : Text} (fits : span.Fits text) :
    ∃ middle, middle ≠ [] ∧ span.text? text = some middle := by
  obtain ⟨before, middle, after, rfl, nonempty, rfl⟩ := fits.parts
  refine ⟨middle, ?_, text_of_parts before middle after nonempty⟩
  rintro rfl
  exact Nat.lt_irrefl 0 nonempty

/-! ### Tokens in their source -/

/-- The text of a token of this kind is spelled as the kind demands. -/
def TokenKind.Spells (kind : TokenKind) (text : Text) : Prop :=
  match kind with
  | .symbol sign => ∃ spelling, (spelling, sign) ∈ Symbol.spellings ∧ text = spelling.toList
  | .keyword word => Keyword.ofSpelling? text = some word
  | _ => True

/-- A symbol with a single spelling has it for its text. -/
theorem TokenKind.Spells.symbol {sign : Symbol} {text : Text}
    (spells : (TokenKind.symbol sign).Spells text) (spelling : String)
    (only : ∀ entry ∈ Symbol.spellings, entry.2 = sign → entry.1 = spelling) :
    text = spelling.toList := by
  obtain ⟨written, listed, same⟩ := spells
  exact same.trans (congrArg String.toList (only _ listed rfl))

/-- The token is a stretch of the source, with its text and its span. -/
structure Token.Stands (source : Text) (token : Token) : Prop where
  spells : token.kind.Spells token.text
  nonempty : token.text ≠ []
  placed : ∃ before after, source = before ++ token.text ++ after ∧
    token.span = Span.ofRange before.byteLength (before.byteLength + token.text.byteLength)

namespace Token.Stands

variable {source : Text} {token : Token}

theorem extent (stands : token.Stands source) : token.span.start ≤ token.span.stop := by
  obtain ⟨before, after, _, span⟩ := stands.placed
  have positive := Text.byteLength_pos stands.nonempty
  rw [span, Span.ofRange]
  dsimp only
  omega

theorem starts (stands : token.Stands source) : source.Boundary token.span.start := by
  obtain ⟨before, after, whole, span⟩ := stands.placed
  refine ⟨before, token.text ++ after, ?_, ?_⟩
  · rw [whole, List.append_assoc]
  · rw [span]
    rfl

theorem stops (stands : token.Stands source) : source.Boundary (token.span.stop + 1) := by
  obtain ⟨before, after, whole, span⟩ := stands.placed
  have positive := Text.byteLength_pos stands.nonempty
  refine ⟨before ++ token.text, after, whole, ?_⟩
  rw [span, Span.ofRange, Text.byteLength_append]
  dsimp only
  omega

/-- The source has the text of the token under the span of the token. -/
theorem text? (stands : token.Stands source) : token.span.text? source = some token.text := by
  obtain ⟨before, after, whole, span⟩ := stands.placed
  have found := Span.text_of_parts before token.text after (Text.byteLength_pos stands.nonempty)
  rw [← whole, ← span] at found
  exact found

theorem span_text (stands : token.Stands source) : token.span.text source = token.text :=
  congrArg (·.getD []) stands.text?

end Token.Stands

namespace Lexeme

theorem word_spells (first : Char) (rest : Text) :
    (word first rest).kind.Spells (word first rest).text := by
  unfold word
  dsimp only
  split
  next found => exact found
  next => trivial

theorem wordOrError_spells (first : Char) (rest : Text) :
    (wordOrError first rest).kind.Spells (wordOrError first rest).text := by
  unfold wordOrError
  split
  · exact word_spells first rest
  · trivial

theorem quotedDigits_spells {kind : TokenKind} {isDigit : Char → Bool} {letter : Char} {rest : Text}
    (free : ∀ text, kind.Spells text) :
    (quotedDigits kind isDigit letter rest).kind.Spells
      (quotedDigits kind isDigit letter rest).text := by
  unfold quotedDigits
  split
  · exact free _
  · trivial

theorem quoted_spells {kind : TokenKind} {error : LexicalError} {opening closing : Char}
    {rest : Text} (free : ∀ text, kind.Spells text) :
    (quoted kind error opening closing rest).kind.Spells
      (quoted kind error opening closing rest).text := by
  unfold quoted
  split
  · exact free _
  · trivial

theorem lettered_spells (first : Char) (rest : Text) :
    (lettered first rest).kind.Spells (lettered first rest).text := by
  unfold lettered
  split
  · split
    · exact quotedDigits_spells fun _ => trivial
    · split
      · exact quotedDigits_spells fun _ => trivial
      · exact wordOrError_spells _ _
  · exact wordOrError_spells _ _

theorem based_spells {text : Text} {lexeme : Lexeme} (found : based? text = some lexeme) :
    lexeme.kind.Spells lexeme.text := by
  unfold based? at found
  split at found
  · split at found
    · cases found
      trivial
    · split at found
      · cases found
        trivial
      · cases found
  · cases found

theorem number_spells (text : Text) : (number text).kind.Spells (number text).text := by
  unfold number
  dsimp only
  split
  · trivial
  · split
    · split <;> trivial
    · trivial

theorem startingWith_spells (first : Char) (rest : Text) :
    (startingWith first rest).kind.Spells (startingWith first rest).text := by
  unfold startingWith
  split
  · exact quoted_spells fun _ => trivial
  split
  · exact quoted_spells fun _ => trivial
  split
  · exact quoted_spells fun _ => trivial
  split
  · exact quoted_spells fun _ => trivial
  split
  · cases found : based? (first :: rest) with
    | none => exact number_spells _
    | some lexeme => exact based_spells found
  · exact lettered_spells first rest

theorem symbol_spells {text : Text} {lexeme : Lexeme} (found : symbol? text = some lexeme) :
    lexeme.kind.Spells lexeme.text := by
  rw [symbol?, Option.map_eq_some_iff] at found
  obtain ⟨entry, listed, rfl⟩ := found
  exact ⟨entry.1, List.mem_of_find?_eq_some listed, rfl⟩

theorem first_spells {text : Text} {lexeme : Lexeme} (found : first? text = some lexeme) :
    lexeme.kind.Spells lexeme.text := by
  cases text with
  | nil => cases found
  | cons first rest =>
      rw [first?, Option.some.injEq] at found
      subst found
      cases symbol : symbol? (first :: rest) with
      | none => exact startingWith_spells first rest
      | some lexeme => exact symbol_spells symbol

end Lexeme

namespace Reader

variable {source : Text} {reader : Reader}

/-- The reader has read a start of the source and goes on with the rest. -/
def Reads (source : Text) (reader : Reader) : Prop :=
  ∃ read, source = read ++ reader.unread ∧ reader.offset = read.byteLength

theorem reads_ofSource (source : Text) : (ofSource source).Reads source := ⟨[], rfl, rfl⟩

/-- The next token stands in the source, and the reader goes on behind it. -/
theorem Reads.next (reads : reader.Reads source) (more : reader.next.1.kind ≠ .endOfInput) :
    reader.next.1.Stands source ∧ reader.next.2.Reads source := by
  obtain ⟨read, whole, offset⟩ := reads
  have trivia := Trivia.split_append reader.unread
  unfold Reader.next at more ⊢
  dsimp only at more ⊢
  split at more
  · exact absurd rfl more
  next lexeme found =>
    obtain ⟨splits, nonempty⟩ := Lexeme.first_splits _ lexeme found
    have parts : source =
        (read ++ (Trivia.split reader.unread).1) ++ lexeme.text ++ lexeme.rest := by
      rw [List.append_assoc, splits, List.append_assoc, trivia]
      exact whole
    have reached : reader.offset + (Trivia.split reader.unread).1.byteLength =
        (read ++ (Trivia.split reader.unread).1).byteLength := by
      rw [Text.byteLength_append, offset]
    dsimp only
    rw [reached]
    refine ⟨⟨Lexeme.first_spells found, nonempty, _, _, parts, rfl⟩, ?_⟩
    exact ⟨_, parts, (Text.byteLength_append _ _).symm⟩

theorem Reads.tokens (reads : reader.Reads source) :
    ∀ token ∈ reader.tokens, token.kind ≠ .endOfInput → token.Stands source := by
  fun_induction Reader.tokens reader with
  | case1 reader atEnd =>
      intro token member more
      rw [List.mem_singleton] at member
      rw [member] at more
      exact absurd atEnd more
  | case2 reader more ih =>
      obtain ⟨stands, later⟩ := reads.next more
      intro token member notEnd
      rcases List.mem_cons.mp member with rfl | member
      · exact stands
      · exact ih later token member notEnd

end Reader

/-- All tokens but the end of the input stand in the source. -/
theorem tokenize_stands (source : Text) :
    ∀ token ∈ tokenize source, token.kind ≠ .endOfInput → token.Stands source :=
  (Reader.reads_ofSource source).tokens

end AnnotatedSql
