/-
This file follows a text between marks through the lexer, the parser and the annotation: what was
written between the marks is what the annotation gives, and nothing else can be written there.
-/

import AnnotatedSql.Annotate
import AnnotatedSql.Proofs.Token.Tiling

namespace AnnotatedSql

/-! ### Lexing -/

namespace Trivia

theorem split_opening (quotation : Quotation) (rest : Text) :
    split (quotation.opening :: rest) = ([], quotation.opening :: rest) := by
  refine split_of_more rest ?_ ?_ ?_ <;> cases quotation <;> decide

end Trivia

theorem Quotation.write_length (quotation : Quotation) (contents : Text) :
    2 ≤ (quotation.write contents).byteLength := by
  have opening := quotation.opening.utf8Size_pos
  have closing := quotation.closing.utf8Size_pos
  rw [write, Text.enclose]
  simp
  omega

/-- Text between marks at the end of a source makes one token. -/
theorem Reader.tokens_write (quotation : Quotation) (contents : Text) {offset : Nat}
    {gap unread : Text} (skipped : Trivia.split unread = (gap, quotation.write contents)) :
    tokens ⟨offset, unread⟩ =
      [Token.placed quotation.kind (quotation.write contents) (offset + gap.byteLength),
        Token.ending (offset + gap.byteLength + (quotation.write contents).byteLength)] := by
  have found : Lexeme.first? (quotation.write contents ++ []) =
      some ⟨quotation.kind, quotation.write contents, []⟩ :=
    Lexeme.first_write quotation contents nofun
  rw [List.append_nil] at found
  rw [tokens_some (by rw [skipped]; exact found)]
  simp only [skipped, tokens_nil]

theorem tokenize_write (quotation : Quotation) (contents : Text) :
    tokenize (quotation.write contents) =
      [Token.placed quotation.kind (quotation.write contents) 0,
        Token.ending (quotation.write contents).byteLength] := by
  have skipped : Trivia.split (quotation.write contents) = ([], quotation.write contents) :=
    Trivia.split_opening quotation _
  rw [tokenize, Reader.ofSource, Reader.tokens_write _ _ skipped]
  simp

/-- The word and the blank before a select list. -/
def selectWord : Text := "SELECT ".toList

theorem Lexeme.first_selectWord (rest : Text) :
    first? (selectWord ++ rest) = some ⟨.keyword .SELECT, "SELECT".toList, ' ' :: rest⟩ := by
  have letters : ∀ character ∈ "ELECT".toList, continuesName character = true :=
    List.all_eq_true.mp (by decide)
  have blank : ¬ continuesName ' ' = true := by decide +kernel
  have taken : List.takeWhile continuesName ("ELECT".toList ++ ' ' :: rest) = "ELECT".toList := by
    rw [List.takeWhile_append_of_pos letters, List.takeWhile_cons_of_neg blank, List.append_nil]
  have dropped : List.dropWhile continuesName ("ELECT".toList ++ ' ' :: rest) = ' ' :: rest := by
    rw [List.dropWhile_append_of_pos letters, List.dropWhile_cons_of_neg blank]
  have noSymbol : symbol? (selectWord ++ rest) = none := rfl
  have word : startingWith 'S' ("ELECT".toList ++ ' ' :: rest) =
      wordOrError 'S' ("ELECT".toList ++ ' ' :: rest) := rfl
  change some ((symbol? (selectWord ++ rest)).getD
    (startingWith 'S' ("ELECT".toList ++ ' ' :: rest))) = _
  rw [noSymbol, Option.getD_none, word, wordOrError, if_pos (by decide), Lexeme.word, taken, dropped]
  rfl

theorem tokenize_select (quotation : Quotation) (contents : Text) :
    tokenize (selectWord ++ quotation.write contents) =
      [Token.placed (.keyword .SELECT) "SELECT".toList 0,
        Token.placed quotation.kind (quotation.write contents) 7,
        Token.ending (7 + (quotation.write contents).byteLength)] := by
  have word := Lexeme.first_selectWord (quotation.write contents)
  have atWord : Trivia.split (selectWord ++ quotation.write contents) =
      ([], selectWord ++ quotation.write contents) :=
    Trivia.split_of_more _ (by decide) (by decide) (by decide)
  have behind : Trivia.split (' ' :: quotation.write contents) =
      ([' '], quotation.write contents) := by
    rw [Trivia.split_blank _ (by decide), Quotation.write, Text.enclose, List.cons_append,
      Trivia.split_opening]
  rw [tokenize, Reader.ofSource, Reader.tokens_some (by rw [atWord]; exact word),
    Reader.tokens_write _ _ behind]
  simp only [atWord]
  rfl

/-! ### Parsing -/

namespace Quotation

/-- The part of the tree that a single token between marks makes. -/
def node (quotation : Quotation) (span : Span) : Grammar.SimpleExpr :=
  match quotation with
  | .string => .literal (Grammar.Parse.literalOf .string span)
  | _ => .column ⟨span, none, ⟨span, none⟩⟩

/-- The tree of a SELECT with nothing but the token between marks. -/
def tree (quotation : Quotation) (span : Span) : Grammar.Select :=
  ⟨⟨0, span.stop⟩, none,
    ⟨span, [.expr span (.primary (.predicate (.bitExpr (.simple (quotation.node span))))) none]⟩,
    none, none, none, none, none⟩

/-- What the annotation makes of the token. -/
def segment (quotation : Quotation) (span : Span) (contents : Text) : Segment :=
  match quotation with
  | .string => .expression (.literal span (.string contents))
  | other => .expression (.column ⟨span, ⟨contents, other.style⟩, none⟩)

/-- A statement with nothing but the token, without markers. -/
def statement (quotation : Quotation) (span : Span) (contents : Text) : Statement :=
  ⟨⟨0, span.stop⟩, ⟨span, false, [.expression span (quotation.segment span contents) none]⟩,
    [], none, none, none, none, 0⟩

end Quotation

theorem parse_select (quotation : Quotation) (contents : Text) :
    Grammar.parse (selectWord ++ quotation.write contents) =
      .ok (quotation.tree (Span.ofRange 7 (7 + (quotation.write contents).byteLength))) := by
  have positive := quotation.write_length contents
  have extent : max (7 + (quotation.write contents).byteLength - 1) 7 =
      7 + (quotation.write contents).byteLength - 1 := by omega
  have covered : max (7 + (quotation.write contents).byteLength - 1) 0 =
      7 + (quotation.write contents).byteLength - 1 := by omega
  rw [Grammar.parse, tokenize_select, Token.placed, Token.placed, Token.ending, Quotation.tree,
    Span.ofRange, Span.ofRange]
  generalize 7 + (quotation.write contents).byteLength - 1 = stop at extent covered
  generalize quotation.write contents = written
  have parsed : (Grammar.Parse.statement (Grammar.Cursor.ofTokens
      [⟨.keyword .SELECT, "SELECT".toList, ⟨0, 0 + Text.byteLength "SELECT".toList - 1⟩⟩,
        ⟨quotation.kind, written, ⟨7, stop⟩⟩,
        ⟨.endOfInput, [], ⟨7 + written.byteLength, 7 + written.byteLength⟩⟩])).1 =
      .ok ⟨⟨0, max stop 0⟩, none, ⟨⟨7, max stop 7⟩,
        [.expr ⟨7, max stop 7⟩
          (.primary (.predicate (.bitExpr (.simple (quotation.node ⟨7, stop⟩))))) none]⟩,
        none, none, none, none, none⟩ := by
    cases quotation <;> rfl
  rw [parsed, extent, covered]

/-! ### Annotation -/

section
variable {quotation : Quotation} {span : Span} {source contents : Text} {progress : Progress}

/-- A string under the span is annotated with its contents. -/
theorem literal_of_text (written : span.text source = Quotation.string.write contents) :
    (Annotate.literal (Grammar.Parse.literalOf .string span)).runOn source progress =
      (.ok (.string contents), progress) := by
  have read : (Annotate.literal (Grammar.Parse.literalOf .string span)).runOn source progress =
      (.ok (.string (stringContents (span.text source))), progress) := rfl
  rw [read, written]
  exact congrArg (fun value => (Except.ok (Value.string value), progress))
    (stringContents_enclose contents)

/-- A quoted name under the span is annotated with its contents and the style of its marks. -/
theorem name_of_text (isName : quotation.kind = .quotedIdentifier)
    (written : span.text source = quotation.write contents) :
    (Annotate.name ⟨span, none⟩).runOn source progress =
      (.ok ⟨contents, quotation.style⟩, progress) := by
  have read : (Annotate.name ⟨span, none⟩).runOn source progress =
      (.ok (Name.ofText (span.text source)), progress) := rfl
  rw [read, written, Quotation.ofText_write isName]

theorem Quotation.segment_name (isName : quotation.kind = .quotedIdentifier) :
    quotation.segment span contents =
      .expression (.column ⟨span, ⟨contents, quotation.style⟩, none⟩) := by
  cases quotation with
  | string => cases isName
  | quote => rfl
  | backQuote => rfl
  | bracket => rfl

/-- The statement of a SELECT with nothing but text between marks. -/
theorem statement_of_text (written : span.text source = quotation.write contents) :
    ((Annotate.statement (quotation.tree span)).runOn source Progress.initial).1 =
      .ok (quotation.statement span contents) := by
  rcases quotation.string_or_name with rfl | isName
  · have read : ((Annotate.statement (Quotation.string.tree span)).runOn source
        Progress.initial).1 =
        .ok (Quotation.string.statement span (stringContents (span.text source))) := rfl
    rw [read, written]
    exact congrArg (fun value => Except.ok (Quotation.string.statement span value))
      (stringContents_enclose contents)
  · have read : ((Annotate.statement (quotation.tree span)).runOn source Progress.initial).1 =
        .ok ⟨⟨0, span.stop⟩, ⟨span, false, [.expression span
          (.expression (.column ⟨span, Name.ofText (span.text source), none⟩)) none]⟩,
          [], none, none, none, none, 0⟩ := by
      cases quotation with
      | string => cases isName
      | quote => rfl
      | backQuote => rfl
      | bracket => rfl
    rw [read, written, Quotation.ofText_write isName, Quotation.statement,
      Quotation.segment_name isName]

end

theorem annotate_select (quotation : Quotation) (contents : Text) :
    annotate (selectWord ++ quotation.write contents) =
      .ok (quotation.statement (Span.ofRange 7 (7 + (quotation.write contents).byteLength))
        contents) := by
  have positive := quotation.write_length contents
  have written := Span.text_of_parts selectWord (quotation.write contents) [] (by omega)
  rw [List.append_nil] at written
  have under : (Span.ofRange 7 (7 + (quotation.write contents).byteLength)).text
      (selectWord ++ quotation.write contents) = quotation.write contents :=
    congrArg (·.getD []) written
  have annotated := statement_of_text under
  rw [annotate, annotateWithEvents, parse_select]
  exact congrArg (Except.mapError Failure.rejected) annotated

/-- What is written between marks comes out of the lexer as one token and out of the annotation as
it was; and every string and every quoted name of a source is its annotation between marks. -/
theorem quotation_round_trip :
    (∀ (quotation : Quotation) (contents : Text),
      tokenize (quotation.write contents) =
          [Token.placed quotation.kind (quotation.write contents) 0,
            Token.ending (quotation.write contents).byteLength] ∧
        annotate (selectWord ++ quotation.write contents) =
          .ok (quotation.statement (Span.ofRange 7 (7 + (quotation.write contents).byteLength))
            contents)) ∧
      ∀ (source : Text), ∀ token ∈ tokenize source,
        (token.kind = .string → ∃ contents,
          token.span.text source = Quotation.string.write contents ∧
            ∀ progress,
              (Annotate.literal (Grammar.Parse.literalOf .string token.span)).runOn source
                progress = (.ok (.string contents), progress)) ∧
        (token.kind = .quotedIdentifier → ∃ (quotation : Quotation) (contents : Text),
          quotation.kind = .quotedIdentifier ∧
            token.span.text source = quotation.write contents ∧
            ∀ progress, (Annotate.name ⟨token.span, none⟩).runOn source progress =
              (.ok ⟨contents, quotation.style⟩, progress)) := by
  refine ⟨fun quotation contents =>
    ⟨tokenize_write quotation contents, annotate_select quotation contents⟩, ?_⟩
  intro source token member
  have between (isPlain : token.kind.isPlain = false) (more : token.kind ≠ .endOfInput) :
      ∃ quotation contents, token.kind = quotation.kind ∧
        token.span.text source = Quotation.write quotation contents := by
    have stands := tokenize_stands source token member more
    obtain ⟨text, lexeme, found, kind, spelled⟩ := tokenize_lexeme source token member more
    rcases Lexeme.first_cases found with ⟨quotation, contents, isKind, written⟩ | plain
    · refine ⟨quotation, contents, kind.trans isKind, ?_⟩
      rw [Span.text, stands.text?, spelled, written]
      rfl
    · rw [← kind, isPlain] at plain
      cases plain
  constructor
  · intro isString
    obtain ⟨quotation, contents, kind, written⟩ :=
      between (by rw [isString]; rfl) (by rw [isString]; nofun)
    obtain rfl : quotation = .string := by
      rcases quotation.string_or_name with string | isName
      · exact string
      · rw [kind, isName] at isString
        cases isString
    exact ⟨contents, written, fun _ => literal_of_text written⟩
  · intro isName
    obtain ⟨quotation, contents, kind, written⟩ :=
      between (by rw [isName]; rfl) (by rw [isName]; nofun)
    rw [kind] at isName
    exact ⟨quotation, contents, isName, written, fun _ => name_of_text isName written⟩

/-- A string and a name with closing marks inside. -/
def quotedSource : Text := "SELECT 'it''s', [a]]b]".toList

theorem quotation_round_trip_doubled :
    (∃ contents, (Span.mk 7 13).text quotedSource = Quotation.string.write contents) ∧
      ∃ quotation contents, (Span.mk 16 21).text quotedSource = Quotation.write quotation contents ∧
        (Annotate.name ⟨⟨16, 21⟩, none⟩).runOn quotedSource Progress.initial =
          (.ok ⟨contents, quotation.style⟩, Progress.initial) := by
  have string : Token.mk .string "'it''s'".toList ⟨7, 13⟩ ∈ tokenize quotedSource := by
    decide +kernel
  have name : Token.mk .quotedIdentifier "[a]]b]".toList ⟨16, 21⟩ ∈ tokenize quotedSource := by
    decide +kernel
  obtain ⟨contents, written, _⟩ := (quotation_round_trip.2 quotedSource _ string).1 rfl
  obtain ⟨quotation, inside, _, bracketed, read⟩ := (quotation_round_trip.2 quotedSource _ name).2 rfl
  exact ⟨⟨contents, written⟩, quotation, inside, bracketed, read _⟩

end AnnotatedSql
