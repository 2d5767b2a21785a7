/-
This file shows that text between marks is one lexeme, whatever the text, and that every string and
every quoted name is such a text.
-/

import AnnotatedSql.Quoting
import AnnotatedSql.Token.Lexeme

namespace AnnotatedSql

namespace Text

theorem double_mark (mark : Char) (rest : Text) :
    double mark (mark :: rest) = mark :: mark :: double mark rest := by
  simp [double]

theorem double_other {mark character : Char} (other : character ≠ mark) (rest : Text) :
    double mark (character :: rest) = character :: double mark rest := by
  simp [double, other]

end Text

/-- The ways to write a text between marks. -/
inductive Quotation
  | string
  | quote
  | backQuote
  | bracket
deriving DecidableEq, Repr

namespace Quotation

def opening : Quotation → Char
  | .string => '\''
  | .quote => '"'
  | .backQuote => '\x60'
  | .bracket => '['

def closing : Quotation → Char
  | .bracket => ']'
  | other => other.opening

def kind : Quotation → TokenKind
  | .string => .string
  | _ => .quotedIdentifier

/-- What is wrong when the closing mark is missing. -/
def unclosed : Quotation → LexicalError
  | .string => .unterminatedString
  | _ => .unterminatedIdentifier

/-- The style of a name in these marks; a string is no name. -/
def style : Quotation → QuoteStyle
  | .string => .bare
  | .quote => .quote
  | .backQuote => .backQuote
  | .bracket => .bracket

/-- The contents between the marks, closing marks doubled. -/
def write (quotation : Quotation) (contents : Text) : Text :=
  contents.enclose quotation.opening quotation.closing

variable {quotation : Quotation}

theorem string_or_name (quotation : Quotation) :
    quotation = .string ∨ quotation.kind = .quotedIdentifier := by
  cases quotation with
  | string => exact .inl rfl
  | quote => exact .inr rfl
  | backQuote => exact .inr rfl
  | bracket => exact .inr rfl

theorem kind_more : quotation.kind ≠ .endOfInput := by
  cases quotation <;> nofun

/-- A name is read back from its written form, with the style of its marks. -/
theorem ofText_write (isName : quotation.kind = .quotedIdentifier) (contents : Text) :
    Name.ofText (quotation.write contents) = ⟨contents, quotation.style⟩ := by
  have enclosed := Text.isEnclosed_enclose quotation.opening quotation.closing contents
  have inside := Text.inner_enclose quotation.opening quotation.closing contents
  have other {opening closing : Char} (differs : quotation.opening ≠ opening) :
      (quotation.write contents).isEnclosed opening closing = false := by
    simp [Text.isEnclosed, write, Text.enclose, differs]
  rw [Name.ofText]
  cases quotation with
  | string => cases isName
  | quote =>
      rw [if_pos (by exact enclosed)]
      exact congrArg (Name.mk · _) ((congrArg _ inside).trans (Text.undouble_double ..))
  | backQuote =>
      rw [if_neg (by rw [other (by decide)]; decide), if_pos (by exact enclosed)]
      exact congrArg (Name.mk · _) ((congrArg _ inside).trans (Text.undouble_double ..))
  | bracket =>
      rw [if_neg (by rw [other (by decide)]; decide), if_neg (by rw [other (by decide)]; decide),
        if_pos (by exact enclosed)]
      exact congrArg (Name.mk · _) ((congrArg _ inside).trans (Text.undouble_double ..))

end Quotation

/-- Neither the end of the input nor a kind that is written between marks. -/
def TokenKind.isPlain : TokenKind → Bool
  | .string | .quotedIdentifier | .endOfInput => false
  | _ => true

namespace Lexeme

/-! ### Contents and their closing mark -/

/-- Doubled marks are contents; a mark that no other follows closes. -/
theorem splitQuoted_double (mark : Char) (contents : Text) {rest : Text}
    (single : rest.head? ≠ some mark) :
    splitQuoted? mark (contents.double mark ++ mark :: rest) =
      some (contents.double mark ++ [mark], rest) := by
  induction contents with
  | nil =>
      cases rest with
      | nil => simp [Text.double, splitQuoted?]
      | cons second after =>
          have differs : second ≠ mark := fun same => single (by rw [same]; rfl)
          simp [Text.double, splitQuoted?, differs]
  | cons character contents ih =>
      by_cases marked : character = mark
      · rw [marked, Text.double_mark]
        simp [splitQuoted?, ih]
      · rw [Text.double_other marked, List.cons_append, splitQuoted?.eq_def]
        simp [marked, ih]

/-- What is read up to a closing mark are contents with their marks doubled. -/
theorem splitQuoted_contents {mark : Char} {text : Text} {read : Text × Text}
    (found : splitQuoted? mark text = some read) :
    ∃ contents : Text, read.1 = contents.double mark ++ [mark] := by
  fun_induction splitQuoted? mark text generalizing read with
  | case1 => cases found
  | case2 =>
      cases found
      exact ⟨[], rfl⟩
  | case3 after ih =>
      obtain ⟨later, laterFound, rfl⟩ := Option.map_eq_some_iff.mp found
      obtain ⟨contents, whole⟩ := ih laterFound
      exact ⟨mark :: contents, by rw [Text.double_mark, whole]; rfl⟩
  | case4 =>
      cases found
      exact ⟨[], rfl⟩
  | case5 first rest differs ih =>
      obtain ⟨later, laterFound, rfl⟩ := Option.map_eq_some_iff.mp found
      obtain ⟨contents, whole⟩ := ih laterFound
      exact ⟨first :: contents, by rw [Text.double_other differs, whole]; rfl⟩

/-! ### The kinds of lexemes -/

theorem quotedDigits_plain {kind : TokenKind} {isDigit : Char → Bool} {letter : Char} {rest : Text}
    (plain : kind.isPlain = true) : (quotedDigits kind isDigit letter rest).kind.isPlain = true := by
  unfold quotedDigits
  split
  · exact plain
  · rfl

theorem based_plain {text : Text} {lexeme : Lexeme} (found : based? text = some lexeme) :
    lexeme.kind.isPlain = true := by
  unfold based? at found
  grind [TokenKind.isPlain]

theorem number_plain (text : Text) : (number text).kind.isPlain = true := by
  unfold number
  grind [TokenKind.isPlain]

theorem wordOrError_plain (first : Char) (rest : Text) :
    (wordOrError first rest).kind.isPlain = true := by
  unfold wordOrError word
  grind [TokenKind.isPlain]

theorem lettered_plain (first : Char) (rest : Text) :
    (lettered first rest).kind.isPlain = true := by
  unfold lettered
  split
  · split
    · exact quotedDigits_plain rfl
    · split
      · exact quotedDigits_plain rfl
      · exact wordOrError_plain _ _
  · exact wordOrError_plain _ _

/-- An opening mark starts a quotation. -/
theorem startingWith_opening (quotation : Quotation) (rest : Text) :
    startingWith quotation.opening rest =
      quoted quotation.kind quotation.unclosed quotation.opening quotation.closing rest := by
  cases quotation <;> rfl

/-- A lexeme starts with an opening mark or is of a plain kind. -/
theorem startingWith_cases (first : Char) (rest : Text) :
    (∃ quotation : Quotation, first = quotation.opening) ∨
      (startingWith first rest).kind.isPlain = true := by
  unfold startingWith
  split
  · exact .inl ⟨.string, ‹_›⟩
  split
  · exact .inl ⟨.quote, ‹_›⟩
  split
  · exact .inl ⟨.backQuote, ‹_›⟩
  split
  · exact .inl ⟨.bracket, ‹_›⟩
  refine .inr ?_
  split
  · cases found : based? (first :: rest) with
    | none => exact number_plain _
    | some lexeme => exact based_plain found
  · exact lettered_plain first rest

/-- Every lexeme is a text between marks or of a plain kind. -/
theorem first_cases {text : Text} {lexeme : Lexeme} (found : first? text = some lexeme) :
    (∃ (quotation : Quotation) (contents : Text),
        lexeme.kind = quotation.kind ∧ lexeme.text = quotation.write contents) ∨
      lexeme.kind.isPlain = true := by
  cases text with
  | nil => cases found
  | cons first rest =>
      rw [first?, Option.some.injEq] at found
      subst found
      cases symbol : symbol? (first :: rest) with
      | some lexeme =>
          rw [symbol?, Option.map_eq_some_iff] at symbol
          obtain ⟨entry, _, rfl⟩ := symbol
          exact .inr rfl
      | none =>
          rw [Option.getD_none]
          rcases startingWith_cases first rest with ⟨quotation, rfl⟩ | plain
          · rw [startingWith_opening, quoted]
            split
            · next found =>
                obtain ⟨contents, whole⟩ := splitQuoted_contents found
                exact .inl ⟨quotation, contents, rfl, congrArg _ whole⟩
            · exact .inr rfl
          · exact .inr plain

/-- A lexeme is never the end of the input. -/
theorem first_more {text : Text} {lexeme : Lexeme} (found : first? text = some lexeme) :
    lexeme.kind ≠ .endOfInput := by
  rcases first_cases found with ⟨quotation, _, kind, _⟩ | plain
  · rw [kind]
    exact quotation.kind_more
  · intro atEnd
    rw [atEnd] at plain
    cases plain

/-- A text between marks is read as a whole, unless another closing mark follows. -/
theorem first_write (quotation : Quotation) (contents : Text) {rest : Text}
    (single : rest.head? ≠ some quotation.closing) :
    first? (quotation.write contents ++ rest) =
      some ⟨quotation.kind, quotation.write contents, rest⟩ := by
  have noSymbol (after : Text) : symbol? (quotation.opening :: after) = none := by
    cases quotation <;> rfl
  have read := splitQuoted_double quotation.closing contents single
  rw [Quotation.write, Text.enclose]
  simp only [List.cons_append, List.append_assoc, List.nil_append, first?, noSymbol,
    Option.getD_none, startingWith_opening, quoted, read]

end Lexeme

end AnnotatedSql
