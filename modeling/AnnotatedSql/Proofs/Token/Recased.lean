/-
This file shows that a text is cut into the same tokens whatever the case of its ASCII letters.
-/

import AnnotatedSql.Proofs.Text.LetterCase
import AnnotatedSql.Proofs.Token.Tiling
import Mathlib.Data.List.Find

namespace AnnotatedSql

variable (recasing : Recasing)

/-! ### Gaps -/

namespace Trivia

theorem splitBlockComment_text (text : Text) :
    splitBlockComment (recasing.text text) =
      (recasing.text (splitBlockComment text).1, recasing.text (splitBlockComment text).2) := by
  fun_induction splitBlockComment text with
  | case1 => rfl
  | case2 rest =>
      simp only [recasing.text_mark '*' (by decide),
        recasing.text_mark '/' (by decide), recasing.text_nil, splitBlockComment]
  | case3 character rest other split ih =>
      rw [recasing.text_cons, splitBlockComment, ih]
      · rfl
      · intro further star slash
        rw [recasing.letter_eq_iff '*' (by decide)] at star
        obtain ⟨after, whole, _⟩ := recasing.text_starts (by decide) slash
        exact other after star whole

theorem split_text (text : Text) :
    split (recasing.text text) =
      (recasing.text (split text).1, recasing.text (split text).2) := by
  fun_induction split text with
  | case1 => rw [recasing.text_nil, split]
  | case2 rest after ih =>
      have feeds (character : Char) :
          (recasing.letter character != '\n') = (character != '\n') := by
        rw [bne, bne, Bool.beq_eq_decide_eq, Bool.beq_eq_decide_eq]
        exact congrArg _ (decide_eq_decide.mpr (recasing.letter_eq_iff '\n' (by decide) character))
      simp only [recasing.text_append, recasing.text_mark '-' (by decide)]
      rw [split, recasing.takeWhile_text feeds, recasing.dropWhile_text feeds, ih]
  | case3 rest after ih =>
      simp only [recasing.text_append, recasing.text_mark '/' (by decide),
        recasing.text_mark '*' (by decide)]
      rw [split, splitBlockComment_text, ih]
  | case4 character rest line block blank after ih =>
      rw [recasing.text_cons, split_blank _ (by rw [recasing.isBlank_letter, blank]), ih]
      rfl
  | case5 character rest line block more =>
      rw [recasing.text_cons, split, if_neg (by rw [recasing.isBlank_letter]; exact more)]
      · rfl
      · intro further minus starts
        rw [recasing.letter_eq_iff '-' (by decide)] at minus
        obtain ⟨after, whole, _⟩ := recasing.text_starts (by decide) starts
        exact line after minus whole
      · intro further slash starts
        rw [recasing.letter_eq_iff '/' (by decide)] at slash
        obtain ⟨after, whole, _⟩ := recasing.text_starts (by decide) starts
        exact block after slash whole

end Trivia

/-! ### Lexemes -/

/-- The lexeme with the case of its text changed. -/
def Lexeme.recase (lexeme : Lexeme) : Lexeme :=
  ⟨lexeme.kind, recasing.text lexeme.text, recasing.text lexeme.rest⟩

namespace Lexeme

theorem isPrefixOf_text {spelling : Text} (marks : ∀ mark ∈ spelling, mark.isAlpha = false)
    (text : Text) : spelling.isPrefixOf (recasing.text text) = spelling.isPrefixOf text := by
  induction spelling generalizing text with
  | nil => rfl
  | cons mark rest ih =>
      cases text with
      | nil => rfl
      | cons first text =>
          have same : (mark == recasing.letter first) = (mark == first) := by
            rw [Bool.beq_eq_decide_eq, Bool.beq_eq_decide_eq, decide_eq_decide, eq_comm,
              recasing.letter_eq_iff mark (marks mark List.mem_cons_self), eq_comm]
          rw [recasing.text_cons, List.isPrefixOf, List.isPrefixOf, same,
            ih fun mark member => marks mark (List.mem_cons_of_mem _ member)]

/-- No symbol is written with letters. -/
theorem symbol_text (text : Text) :
    symbol? (recasing.text text) = (symbol? text).map (Lexeme.recase recasing) := by
  have noLetters : Symbol.spellings.all fun entry =>
      entry.1.toList.all fun mark => !mark.isAlpha := by decide
  have marks (entry : String × Symbol) (listed : entry ∈ Symbol.spellings) :
      ∀ mark ∈ entry.1.toList, mark.isAlpha = false := by
    intro mark member
    have other := List.all_eq_true.mp (List.all_eq_true.mp noLetters entry listed) mark member
    exact Bool.not_eq_true' .. ▸ other
  have found : Symbol.spellings.find? (fun entry => entry.1.toList.isPrefixOf (recasing.text text)) =
      Symbol.spellings.find? fun entry => entry.1.toList.isPrefixOf text :=
    List.find?_congr fun entry listed => isPrefixOf_text recasing (marks entry listed) text
  rw [symbol?, symbol?, found, Option.map_map]
  cases chosen : Symbol.spellings.find? fun entry => entry.1.toList.isPrefixOf text with
  | none => rfl
  | some entry =>
      have listed := List.mem_of_find?_eq_some chosen
      have stays : recasing.text entry.1.toList = entry.1.toList :=
        (List.map_congr_left fun mark member =>
          recasing.letter_of_other mark (marks entry listed mark member)).trans (List.map_id _)
      simp only [Option.map_some, Function.comp, recase, stays]
      rw [Recasing.text, Recasing.text, List.map_drop]

variable {mark opening closing : Char}

theorem splitQuoted_text (other : mark.isAlpha = false) (text : Text) :
    splitQuoted? mark (recasing.text text) =
      (splitQuoted? mark text).map fun read => (recasing.text read.1, recasing.text read.2) := by
  fun_induction splitQuoted? mark text with
  | case1 => rfl
  | case2 => simp [recasing.letter_of_other mark other, splitQuoted?]
  | case3 after ih =>
      simp [recasing.letter_of_other mark other, splitQuoted?, ih, Function.comp_def]
  | case4 second after differs =>
      simp [recasing.letter_of_other mark other, splitQuoted?, recasing.letter_eq_iff mark other,
        differs]
  | case5 first rest differs ih =>
      rw [recasing.text_cons, splitQuoted?.eq_def]
      simp [recasing.letter_eq_iff mark other, differs, ih, Function.comp_def]

theorem quoted_text (open_ : opening.isAlpha = false) (close : closing.isAlpha = false)
    (kind : TokenKind) (error : LexicalError) (rest : Text) :
    quoted kind error opening closing (recasing.text rest) =
      (quoted kind error opening closing rest).recase recasing := by
  rw [quoted, quoted, splitQuoted_text recasing close]
  cases splitQuoted? closing rest with
  | none => simp [recase, recasing.letter_of_other opening open_]
  | some read => simp [recase, recasing.letter_of_other opening open_]

theorem quotedDigits_text {isDigit : Char → Bool}
    (same : ∀ character, isDigit (recasing.letter character) = isDigit character)
    (kind : TokenKind) (letter : Char) (rest : Text) :
    quotedDigits kind isDigit (recasing.letter letter) (recasing.text rest) =
      (quotedDigits kind isDigit letter rest).recase recasing := by
  have quote := recasing.letter_of_other '\'' (by decide)
  rw [quotedDigits, quotedDigits, recasing.takeWhile_text same, recasing.dropWhile_text same]
  cases rest.dropWhile isDigit with
  | nil => simp [recase, quote]
  | cons first after =>
      by_cases closes : first = '\''
      · simp [recase, quote, closes]
      · have open_ : recasing.letter first ≠ '\'' := by
          rwa [Ne, recasing.letter_eq_iff '\'' (by decide)]
        simp [recase, quote, closes, open_]

theorem based_text (text : Text) :
    based? (recasing.text text) = (based? text).map (Lexeme.recase recasing) := by
  have zero := recasing.letter_of_other '0' (by decide)
  have hexMark := recasing.either_letter 'x' (by decide)
  have bitMark := recasing.either_letter 'b' (by decide)
  simp only [Char.reduceToUpper] at hexMark bitMark
  rcases text with _ | ⟨first, _ | ⟨letter, _ | ⟨digit, rest⟩⟩⟩
  · rfl
  · simp [based?]
  · simp [based?]
  · by_cases zeroed : first = '0'
    · simp only [zeroed, recasing.text_cons, zero, based?, hexMark, bitMark,
        recasing.isHexDigit_letter, recasing.isBit_letter,
        recasing.takeWhile_text recasing.isHexDigit_letter,
        recasing.dropWhile_text recasing.isHexDigit_letter,
        recasing.takeWhile_text recasing.isBit_letter,
        recasing.dropWhile_text recasing.isBit_letter]
      split
      · simp [recase, zero]
      · split
        · simp [recase, zero]
        · rfl
    · have other : recasing.letter first ≠ '0' := by
        rwa [Ne, recasing.letter_eq_iff '0' (by decide)]
      simp [based?, zeroed, other]

theorem splitDecimal_text (text : Text) :
    splitDecimal (recasing.text text) =
      (recasing.text (splitDecimal text).1, recasing.text (splitDecimal text).2) := by
  have point := recasing.letter_of_other '.' (by decide)
  rw [splitDecimal, splitDecimal, recasing.takeWhile_text recasing.isDigit_letter,
    recasing.dropWhile_text recasing.isDigit_letter]
  rcases text.dropWhile Char.isDigit with _ | ⟨first, _ | ⟨digit, rest⟩⟩
  · rfl
  · simp
  · by_cases pointed : first = '.'
    · simp only [pointed, recasing.text_cons, point, recasing.isDigit_letter,
        recasing.takeWhile_text recasing.isDigit_letter,
        recasing.dropWhile_text recasing.isDigit_letter]
      split <;> simp [point]
    · have other : recasing.letter first ≠ '.' := by
        rwa [Ne, recasing.letter_eq_iff '.' (by decide)]
      simp [pointed, other]

theorem number_text (text : Text) :
    number (recasing.text text) = (number text).recase recasing := by
  rw [number, number, splitDecimal_text]
  cases (splitDecimal text).2 with
  | nil => rfl
  | cons letter rest =>
      have exponent := recasing.either_letter 'e' (by decide) letter
      simp only [Char.reduceToUpper] at exponent
      simp only [recasing.text_cons, exponent, recasing.splitSign_text, recasing.text_eq_nil,
        recasing.takeWhile_text recasing.isDigit_letter,
        recasing.dropWhile_text recasing.isDigit_letter]
      split
      · split
        · simp [recase, recasing.text_sign]
        · simp [recase, recasing.text_sign]
      · simp [recase]

theorem word_text (first : Char) (rest : Text) :
    word (recasing.letter first) (recasing.text rest) = (word first rest).recase recasing := by
  rw [word, word, recasing.takeWhile_text recasing.continuesName_letter,
    recasing.dropWhile_text recasing.continuesName_letter, ← recasing.text_cons,
    recasing.keyword_text]
  rfl

/-- What starts no name stays. -/
theorem letter_of_not_startsName {character : Char} (more : ¬ startsName character = true) :
    recasing.letter character = character := by
  have fixed {found : Char} (more : ¬ startsName found = true) : found.toUpper = found := by
    have letters : smallLetters.all startsName := by decide
    exact Decidable.byContradiction fun changes =>
      more (List.all_eq_true.mp letters found (mem_smallLetters changes))
  have recased : ¬ startsName (recasing.letter character) = true := by
    rwa [recasing.startsName_letter]
  rw [← fixed recased, recasing.keeps, fixed more]

theorem wordOrError_text (first : Char) (rest : Text) :
    wordOrError (recasing.letter first) (recasing.text rest) =
      (wordOrError first rest).recase recasing := by
  rw [wordOrError, wordOrError, recasing.startsName_letter]
  split
  · exact word_text recasing first rest
  · next more => simp [recase, letter_of_not_startsName recasing more]

theorem lettered_text (first : Char) (rest : Text) :
    lettered (recasing.letter first) (recasing.text rest) =
      (lettered first rest).recase recasing := by
  have quote := recasing.letter_of_other '\'' (by decide)
  cases rest with
  | nil => exact wordOrError_text recasing first []
  | cons second after =>
      by_cases quoted : second = '\''
      · have bare := wordOrError_text recasing first ('\'' :: after)
        rw [recasing.text_mark '\'' (by decide)] at bare
        have hexMark := recasing.either_letter 'x' (by decide) first
        have bitMark := recasing.either_letter 'b' (by decide) first
        simp only [Char.reduceToUpper] at hexMark bitMark
        simp only [quoted, recasing.text_cons, quote, lettered, hexMark, bitMark]
        split
        · exact quotedDigits_text recasing recasing.isHexDigit_letter _ _ _
        split
        · exact quotedDigits_text recasing recasing.isBit_letter _ _ _
        · exact bare
      · have open_ : recasing.letter second ≠ '\'' := by
          rwa [Ne, recasing.letter_eq_iff '\'' (by decide)]
        have bare := wordOrError_text recasing first (second :: after)
        rw [recasing.text_cons] at bare ⊢
        simpa [lettered, quoted, open_] using bare

theorem startingWith_text (first : Char) (rest : Text) :
    startingWith (recasing.letter first) (recasing.text rest) =
      (startingWith first rest).recase recasing := by
  rw [startingWith, startingWith]
  simp only [recasing.letter_eq_iff '\'' (by decide),
    recasing.letter_eq_iff '"' (by decide),
    recasing.letter_eq_iff '\x60' (by decide),
    recasing.letter_eq_iff '[' (by decide), recasing.isDigit_letter,
    ← recasing.text_cons, based_text, number_text, lettered_text]
  split
  · next mark =>
      rw [mark, recasing.letter_of_other '\'' (by decide)]
      exact quoted_text recasing (by decide) (by decide) _ _ rest
  split
  · next mark =>
      rw [mark, recasing.letter_of_other '"' (by decide)]
      exact quoted_text recasing (by decide) (by decide) _ _ rest
  split
  · next mark =>
      rw [mark, recasing.letter_of_other '\x60' (by decide)]
      exact quoted_text recasing (by decide) (by decide) _ _ rest
  split
  · next mark =>
      rw [mark, recasing.letter_of_other '[' (by decide)]
      exact quoted_text recasing (by decide) (by decide) _ _ rest
  split
  · cases based? (first :: rest) <;> rfl
  · rfl

theorem first_text (text : Text) :
    first? (recasing.text text) = (first? text).map (Lexeme.recase recasing) := by
  cases text with
  | nil => rfl
  | cons first rest =>
      rw [first?, recasing.text_cons, first?, ← recasing.text_cons, symbol_text, startingWith_text]
      cases symbol? (first :: rest) <;> rfl

end Lexeme

/-! ### Tokens -/

/-- The token with the case of its text changed. -/
def Token.recase (token : Token) : Token := ⟨token.kind, recasing.text token.text, token.span⟩

theorem Reader.next_text (offset : Nat) (text : Text) :
    next ⟨offset, recasing.text text⟩ =
      ((next ⟨offset, text⟩).1.recase recasing,
        ⟨(next ⟨offset, text⟩).2.offset, recasing.text (next ⟨offset, text⟩).2.unread⟩) := by
  rw [next, next]
  simp only [Trivia.split_text, Lexeme.first_text, Recasing.byteLength_text]
  cases Lexeme.first? (Trivia.split text).2 with
  | none => rfl
  | some lexeme => simp [Lexeme.recase, Token.recase, Token.placed]

theorem Reader.tokens_text (reader : Reader) :
    tokens ⟨reader.offset, recasing.text reader.unread⟩ =
      reader.tokens.map (Token.recase recasing) := by
  fun_induction tokens reader with
  | case1 reader atEnd =>
      have last : (next ⟨reader.offset, recasing.text reader.unread⟩).1.kind = .endOfInput := by
        rw [next_text]
        exact atEnd
      rw [tokens, dif_pos last, next_text]
      rfl
  | case2 reader more ih =>
      have further : (next ⟨reader.offset, recasing.text reader.unread⟩).1.kind ≠ .endOfInput := by
        rw [next_text]
        exact more
      rw [tokens, dif_neg further, next_text]
      exact congrArg _ ih

/-- A text in another case has the same tokens at the same places. -/
theorem tokenize_text (source : Text) :
    tokenize (recasing.text source) = (tokenize source).map (Token.recase recasing) :=
  (Reader.ofSource source).tokens_text recasing

end AnnotatedSql
