/-
This file shows that other blanks and comments between its tokens leave a text with the same tokens,
and that every token is read alone as it is read in its text.
-/

import AnnotatedSql.Proofs.Token.Boundary
import AnnotatedSql.Proofs.Token.Excerpt

namespace AnnotatedSql

/-! ### Texts with the same tokens -/

/-- What may be put between two tokens: a blank, and behind it blanks and complete comments. -/
structure Separator (text : Text) : Prop where
  blank : ∃ first ∈ text.head?, isBlank first
  gap : Gap false text

/-- The text consists of the texts of the tokens, with a separator between any two of them. -/
inductive Spaced : List Token → Text → Prop
  | nil : Spaced [] []
  | single (token : Token) : Spaced [token] token.text
  | cons {first second : Token} {rest : List Token} {separator text : Text} :
      Separator separator → Spaced (second :: rest) text →
      Spaced (first :: second :: rest) (first.text ++ (separator ++ text))

/-- Where nothing is skipped, the first lexeme is the first token. -/
theorem Reader.tokens_bare {text : Text} {lexeme : Lexeme} (bare : Trivia.split text = ([], text))
    (found : Lexeme.first? text = some lexeme) (offset : Nat) :
    tokens ⟨offset, text⟩ = Token.placed lexeme.kind lexeme.text offset ::
      tokens ⟨offset + lexeme.text.byteLength, lexeme.rest⟩ := by
  have first : Lexeme.first? (Trivia.split text).2 = some lexeme := by
    rw [bare]
    exact found
  rw [@tokens_some ⟨offset, text⟩ _ first, bare, Text.byteLength_nil, Nat.add_zero]

namespace Token

/-- The kind and the text of a token, wherever it stands. -/
def unplaced (token : Token) : TokenKind × Text := (token.kind, token.text)

/-- The token is read where nothing but its text is left. -/
structure Alone (token : Token) : Prop where
  bare : Trivia.split token.text = ([], token.text)
  whole : Lexeme.first? token.text = some ⟨token.kind, token.text, []⟩

/-- The token is no quotation whose closing mark is missing. -/
def Closed (token : Token) : Prop := ∀ quotation : Quotation,
  token.text.head? = some quotation.opening → token.kind ≠ .error quotation.unclosed

variable {token : Token} {gap rest : Text}

theorem Alone.tokenize (alone : token.Alone) : AnnotatedSql.tokenize token.text =
    [Token.placed token.kind token.text 0, Token.ending token.text.byteLength] := by
  rw [AnnotatedSql.tokenize, Reader.ofSource, Reader.tokens_bare alone.bare alone.whole,
    Reader.tokens_nil, Nat.zero_add]

/-- In front of a separator the token is read like alone. -/
theorem Alone.spaced (alone : token.Alone) (closed : token.Closed) (starts : StartsAtBoundary rest) :
    Trivia.split (token.text ++ rest) = ([], token.text ++ rest) ∧
      Lexeme.first? (token.text ++ rest) = some ⟨token.kind, token.text, rest⟩ := by
  constructor
  · have bare : Trivia.split (token.text ++ []) = ([], token.text ++ []) := by
      rw [List.append_nil]
      exact alone.bare
    exact Trivia.split_none_boundary (Lexeme.first_splits _ _ alone.whole).2 bare starts
  · exact Lexeme.first_boundary alone.whole closed starts

end Token

theorem Separator.starts {separator : Text} (separates : Separator separator) (text : Text) :
    StartsAtBoundary (separator ++ text) := by
  obtain ⟨first, isFirst, blank⟩ := separates.blank
  refine ⟨first, ?_, ?_⟩
  · rw [List.head?_append, isFirst]
    rfl
  · rw [isBoundary, blank, Bool.true_or]

/-- Where a further lexeme is left behind a quotation, the quotation is closed. -/
theorem Lexeme.first_closed {text : Text} {lexeme : Lexeme} (found : first? text = some lexeme)
    (more : lexeme.rest ≠ []) (quotation : Quotation)
    (opened : lexeme.text.head? = some quotation.opening) :
    lexeme.kind ≠ .error quotation.unclosed := by
  obtain ⟨tail, opening⟩ := List.head?_eq_some_iff.mp opened
  have whole := (first_splits _ _ found).1
  rw [opening] at whole
  subst whole
  have noSymbol (after : Text) : symbol? (quotation.opening :: after) = none := by
    cases quotation <;> rfl
  rw [List.cons_append, first?, noSymbol, Option.getD_none, startingWith_opening, quoted,
    Option.some.injEq] at found
  split at found
  · rw [← found]
    cases quotation <;> simp [Quotation.kind]
  · exact absurd (congrArg Lexeme.rest found).symm more

namespace Reader

variable {reader : Reader}

/-- A token of a text is read like alone. -/
theorem next_alone (more : reader.next.1.kind ≠ .endOfInput) : reader.next.1.Alone := by
  obtain ⟨lexeme, found⟩ := exists_lexeme more
  have splits := (Lexeme.first_splits _ lexeme found).1
  have bare := Trivia.split_behind reader.unread
  rw [next_some found]
  constructor
  · have left : (Trivia.split (Trivia.split reader.unread).2).2 = lexeme.text ++ lexeme.rest := by
      rw [bare, splits]
    have cut := Trivia.split_cut splits left
    rwa [bare] at cut
  · rw [← splits] at found
    exact Lexeme.first_cut found (List.nil_append _).symm

theorem tokens_alone (reader : Reader) :
    ∀ token ∈ reader.tokens, token.kind ≠ .endOfInput → token.Alone := by
  fun_induction tokens reader with
  | case1 reader atEnd =>
      intro token member more
      rw [List.mem_singleton.mp member] at more
      exact absurd atEnd more
  | case2 reader more ih =>
      intro token member notEnd
      rcases List.mem_cons.mp member with rfl | later
      · exact next_alone more
      · exact ih token later notEnd

/-- A token that another one follows is no quotation whose closing mark is missing. -/
theorem next_closed (more : reader.next.1.kind ≠ .endOfInput)
    (further : reader.next.2.next.1.kind ≠ .endOfInput) : reader.next.1.Closed := by
  obtain ⟨lexeme, found⟩ := exists_lexeme more
  rw [next_some found] at further ⊢
  refine Lexeme.first_closed found fun nothing => ?_
  rw [nothing, next_nil] at further
  exact further rfl

/-- A reader that has a token before the end is not at the end. -/
theorem next_more {first : Token} {rest : List Token}
    (whole : reader.tokens.dropLast = first :: rest) : reader.next.1.kind ≠ .endOfInput := by
  intro atEnd
  rw [tokens, dif_pos atEnd] at whole
  cases whole

/-- A text that consists of the tokens of a reader has these tokens. -/
theorem tokens_spaced (reader : Reader) {text : Text} (spaced : Spaced reader.tokens.dropLast text)
    (offset : Nat) : Trivia.split text = ([], text) ∧
      (tokens ⟨offset, text⟩).map Token.unplaced = reader.tokens.map Token.unplaced := by
  fun_induction tokens reader generalizing text offset with
  | case1 reader atEnd =>
      cases spaced
      refine ⟨by rw [Trivia.split], ?_⟩
      rw [tokens_nil, List.map_singleton, List.map_singleton, Token.unplaced, Token.unplaced,
        next_none (next_ends atEnd)]
      rfl
  | case2 reader more ih =>
      have alone := next_alone more
      rw [List.dropLast_cons_of_ne_nil (tokens_ne_nil _)] at spaced
      generalize others : reader.next.2.tokens.dropLast = before at spaced ih
      cases spaced with
      | single =>
          refine ⟨alone.bare, ?_⟩
          rw [tokens_bare alone.bare alone.whole, List.map_cons, List.map_cons, (ih .nil _).2]
          rfl
      | @cons _ second rest separator text separates spaced =>
          have closed := next_closed more (next_more others)
          obtain ⟨bare, lexed⟩ := alone.spaced closed (separates.starts text)
          refine ⟨bare, ?_⟩
          rw [tokens_bare bare lexed, ← tokens_behind,
            Trivia.split_of_gap separates.gap (ih spaced 0).1, List.map_cons, List.map_cons,
            (ih spaced _).2]
          rfl

end Reader

/-- However its tokens are spaced, a text is cut into the same tokens; and each of them is the only
token of its own text. -/
theorem respaced_tokens_alike (source : Text) :
    ∃ content, tokenize source = content ++ [Token.ending source.byteLength] ∧
      (∀ text, Spaced content text → ∃ again,
        tokenize text = again ++ [Token.ending text.byteLength] ∧
          again.map Token.unplaced = content.map Token.unplaced) ∧
      ∀ token ∈ content, token.kind ≠ .endOfInput ∧ tokenize token.text =
        [Token.placed token.kind token.text 0, Token.ending token.text.byteLength] := by
  obtain ⟨content, whole, others⟩ := tokenize_ending source
  refine ⟨content, whole, ?_, ?_⟩
  · intro text spaced
    obtain ⟨again, wholeAgain, _⟩ := tokenize_ending text
    refine ⟨again, wholeAgain, ?_⟩
    have consists : Spaced (tokenize source).dropLast text := by
      rw [whole, List.dropLast_concat]
      exact spaced
    have same := (Reader.ofSource source).tokens_spaced consists 0
    change _ ∧ (tokenize text).map _ = (tokenize source).map _ at same
    rw [whole, wholeAgain, List.map_append, List.map_append] at same
    exact (List.append_inj' same.2 rfl).1
  · intro token member
    have more := others token member
    have alone := (Reader.ofSource source).tokens_alone token (by
      change token ∈ tokenize source
      rw [whole]
      exact List.mem_append_left _ member) more
    exact ⟨more, alone.tokenize⟩

/-- An exponent without digits ends in front of a comment as it ends with its text. -/
theorem respaced_tokens_alike_comments :
    ∃ again, tokenize "a\t-- <\n1e+ /* 1 */<".toList = again ++ [Token.ending 19] ∧
      again.map Token.unplaced = [(.identifier, "a".toList),
        (.error .malformedExponent, "1e+".toList), (.symbol .less, "<".toList)] := by
  obtain ⟨content, whole, spaced, _⟩ := respaced_tokens_alike "a 1e+<".toList
  have lexed : tokenize "a 1e+<".toList = [Token.placed .identifier "a".toList 0,
      Token.placed (.error .malformedExponent) "1e+".toList 2,
      Token.placed (.symbol .less) "<".toList 5] ++ [Token.ending 6] := by decide +kernel
  obtain rfl := (List.append_inj' (whole.symm.trans lexed) rfl).1
  have line : Separator "\t-- <\n".toList :=
    ⟨⟨'\t', rfl, rfl⟩, .blank rfl
      (@Gap.line false " <".toList "\n".toList (by decide) rfl (.blank rfl .nil))⟩
  have block : Separator " /* 1 */".toList :=
    ⟨⟨' ', rfl, rfl⟩, .blank rfl (@Gap.block false " 1 ".toList [] (by decide) .nil)⟩
  exact spaced _ (.cons line (.cons block (.single _)))

end AnnotatedSql
