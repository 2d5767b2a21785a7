/-
This file reads one lexeme at the start of a text.
Every reader gives the lexeme and the rest; together they are the text that was read.
-/

import AnnotatedSql.Text.Digits
import AnnotatedSql.Text.Letter
import AnnotatedSql.Token

namespace AnnotatedSql

/-- A piece of text with its kind, and the text that follows it. -/
structure Lexeme where
  kind : TokenKind
  text : Text
  rest : Text
deriving DecidableEq, Repr

namespace Lexeme

/-- The lexeme is a nonempty start of the text and its rest is what follows. -/
def Splits (lexeme : Lexeme) (text : Text) : Prop :=
  lexeme.text ++ lexeme.rest = text ∧ lexeme.text ≠ []

/-- An operator or a punctuation mark. -/
def symbol? (text : Text) : Option Lexeme :=
  (Symbol.spellings.find? fun entry => entry.1.toList.isPrefixOf text).map fun entry =>
    ⟨.symbol entry.2, entry.1.toList, text.drop entry.1.toList.length⟩

/-- Reads up to and including the closing mark; a doubled mark does not close. -/
def splitQuoted? (mark : Char) : Text → Option (Text × Text)
  | [] => none
  | first :: rest =>
      if first = mark then
        match rest with
        | [] => some ([first], [])
        | second :: after =>
            if second = mark then
              (splitQuoted? mark after).map fun read => (first :: second :: read.1, read.2)
            else
              some ([first], second :: after)
      else
        (splitQuoted? mark rest).map fun read => (first :: read.1, read.2)

/-- Text from an opening mark to its closing mark, or an error that takes all that is left. -/
def quoted (kind : TokenKind) (error : LexicalError) (opening closing : Char) (rest : Text) :
    Lexeme :=
  match splitQuoted? closing rest with
  | some (body, after) => ⟨kind, opening :: body, after⟩
  | none => ⟨.error error, opening :: rest, []⟩

/-- Digits between apostrophes after a letter that says which digits. -/
def quotedDigits (kind : TokenKind) (isDigit : Char → Bool) (letter : Char) (rest : Text) :
    Lexeme :=
  let digits := rest.takeWhile isDigit
  match rest.dropWhile isDigit with
  | '\'' :: after => ⟨kind, letter :: '\'' :: digits ++ ['\''], after⟩
  | after => ⟨.error .malformedLiteral, letter :: '\'' :: digits, after⟩

/-- Digits after `0` and a letter that says which digits; at least one digit is needed. -/
def based? : Text → Option Lexeme
  | '0' :: letter :: digit :: rest =>
      if (letter = 'x' ∨ letter = 'X') ∧ isHexDigit digit then
        some ⟨.hexadecimal, '0' :: letter :: digit :: rest.takeWhile isHexDigit,
          rest.dropWhile isHexDigit⟩
      else if (letter = 'b' ∨ letter = 'B') ∧ isBit digit then
        some ⟨.bitValue, '0' :: letter :: digit :: rest.takeWhile isBit, rest.dropWhile isBit⟩
      else
        none
  | _ => none

/-- Digits, and a fraction if a digit follows the point. -/
def splitDecimal (text : Text) : Text × Text :=
  let whole := text.takeWhile Char.isDigit
  match text.dropWhile Char.isDigit with
  | '.' :: digit :: rest =>
      if digit.isDigit then
        (whole ++ '.' :: digit :: rest.takeWhile Char.isDigit, rest.dropWhile Char.isDigit)
      else
        (whole, '.' :: digit :: rest)
  | rest => (whole, rest)

/-- A decimal number with an optional exponent, which needs a digit once its letter is there. -/
def number (text : Text) : Lexeme :=
  let decimal := splitDecimal text
  match decimal.2 with
  | [] => ⟨.number, decimal.1, []⟩
  | letter :: rest =>
      if letter = 'e' ∨ letter = 'E' then
        let sign := Text.splitSign rest
        let digits := sign.2.takeWhile Char.isDigit
        if digits = [] then
          ⟨.error .malformedExponent, decimal.1 ++ letter :: sign.1, sign.2⟩
        else
          ⟨.number, decimal.1 ++ letter :: sign.1 ++ digits, sign.2.dropWhile Char.isDigit⟩
      else
        ⟨.number, decimal.1, letter :: rest⟩

/-- A keyword or a bare name. -/
def word (first : Char) (rest : Text) : Lexeme :=
  let text := first :: rest.takeWhile continuesName
  let kind := match Keyword.ofSpelling? text with
    | some keyword => .keyword keyword
    | none => .identifier
  ⟨kind, text, rest.dropWhile continuesName⟩

/-- A keyword or a bare name, unless the first character starts none. -/
def wordOrError (first : Char) (rest : Text) : Lexeme :=
  if startsName first then word first rest
  else ⟨.error (.unexpectedCharacter first), [first], rest⟩

/-- Digits between apostrophes, or what else starts with the given character. -/
def lettered (first : Char) (rest : Text) : Lexeme :=
  match rest with
  | '\'' :: after =>
      if first = 'x' ∨ first = 'X' then quotedDigits .hexadecimal isHexDigit first after
      else if first = 'b' ∨ first = 'B' then quotedDigits .bitValue isBit first after
      else wordOrError first rest
  | _ => wordOrError first rest

/-- The lexeme that starts with the given character, which opens no symbol. -/
def startingWith (first : Char) (rest : Text) : Lexeme :=
  if first = '\'' then quoted .string .unterminatedString first '\'' rest
  else if first = '"' then quoted .quotedIdentifier .unterminatedIdentifier first '"' rest
  else if first = '\x60' then quoted .quotedIdentifier .unterminatedIdentifier first '\x60' rest
  else if first = '[' then quoted .quotedIdentifier .unterminatedIdentifier first ']' rest
  else if first.isDigit then (based? (first :: rest)).getD (number (first :: rest))
  else lettered first rest

/-- The lexeme at the start of a text that has one. -/
def first? : Text → Option Lexeme
  | [] => none
  | first :: rest => some ((symbol? (first :: rest)).getD (startingWith first rest))

theorem symbol_splits (text : Text) (lexeme : Lexeme) (found : symbol? text = some lexeme) :
    lexeme.Splits text := by
  simp only [symbol?, Option.map_eq_some_iff] at found
  obtain ⟨entry, listed, rfl⟩ := found
  have leads := List.find?_some listed
  obtain ⟨rest, rfl⟩ := List.isPrefixOf_iff_prefix.mp leads
  exact ⟨by simp, Symbol.spellings_nonempty entry (List.mem_of_find?_eq_some listed)⟩

theorem splitQuoted_append (mark : Char) (text : Text) (read : Text × Text)
    (found : splitQuoted? mark text = some read) : read.1 ++ read.2 = text := by
  fun_induction splitQuoted? mark text generalizing read with
  | case1 => simp at found
  | case2 =>
      cases found
      rfl
  | case3 after ih =>
      simp only [Option.map_eq_some_iff] at found
      obtain ⟨inner, innerFound, rfl⟩ := found
      simp [ih inner innerFound]
  | case4 =>
      cases found
      rfl
  | case5 first rest differs ih =>
      simp only [Option.map_eq_some_iff] at found
      obtain ⟨inner, innerFound, rfl⟩ := found
      simp [ih inner innerFound]

theorem quoted_splits (kind : TokenKind) (error : LexicalError) (opening closing : Char)
    (rest : Text) : (quoted kind error opening closing rest).Splits (opening :: rest) := by
  unfold quoted
  split
  · rename_i found
    simp [Splits, splitQuoted_append _ _ _ found]
  · simp [Splits]

theorem quotedDigits_splits (kind : TokenKind) (isDigit : Char → Bool) (letter : Char)
    (rest : Text) : (quotedDigits kind isDigit letter rest).Splits (letter :: '\'' :: rest) := by
  have whole := List.takeWhile_append_dropWhile (p := isDigit) (l := rest)
  unfold quotedDigits
  split
  · rename_i after ends
    rw [ends] at whole
    simp [Splits, whole]
  · simp [Splits, whole]

theorem based_splits (text : Text) (lexeme : Lexeme) (found : based? text = some lexeme) :
    lexeme.Splits text := by
  unfold based? at found
  split at found
  · split at found
    · cases found
      simp [Splits]
    · split at found
      · cases found
        simp [Splits]
      · simp at found
  · simp at found

theorem splitDecimal_append (text : Text) :
    (splitDecimal text).1 ++ (splitDecimal text).2 = text := by
  have whole := List.takeWhile_append_dropWhile (p := Char.isDigit) (l := text)
  unfold splitDecimal
  split
  · rename_i digit rest point
    rw [point] at whole
    dsimp only
    split
    · simp [whole]
    · exact whole
  · exact whole

theorem number_splits (first : Char) (rest : Text) (digit : first.isDigit = true) :
    (number (first :: rest)).Splits (first :: rest) := by
  have whole := splitDecimal_append (first :: rest)
  have started : (splitDecimal (first :: rest)).1 ≠ [] := by
    unfold splitDecimal
    split
    · dsimp only
      split <;> simp [digit]
    · simp [digit]
  unfold number
  dsimp only
  split
  · rename_i ends
    rw [ends] at whole
    exact ⟨whole, started⟩
  · rename_i letter after exponent
    have signed := Text.splitSign_append after
    have digits := List.takeWhile_append_dropWhile (p := Char.isDigit) (l := (Text.splitSign after).2)
    rw [exponent] at whole
    split
    · split
      · exact ⟨by simp [signed, whole], by simp⟩
      · exact ⟨by simp [digits, signed, whole], by simp⟩
    · exact ⟨whole, started⟩

theorem word_splits (first : Char) (rest : Text) : (word first rest).Splits (first :: rest) := by
  simp [word, Splits]

theorem wordOrError_splits (first : Char) (rest : Text) :
    (wordOrError first rest).Splits (first :: rest) := by
  unfold wordOrError
  split
  · exact word_splits first rest
  · simp [Splits]

theorem lettered_splits (first : Char) (rest : Text) :
    (lettered first rest).Splits (first :: rest) := by
  unfold lettered
  split
  · split
    · exact quotedDigits_splits ..
    · split
      · exact quotedDigits_splits ..
      · exact wordOrError_splits ..
  · exact wordOrError_splits ..

theorem startingWith_splits (first : Char) (rest : Text) :
    (startingWith first rest).Splits (first :: rest) := by
  unfold startingWith
  split
  · exact quoted_splits ..
  split
  · exact quoted_splits ..
  split
  · exact quoted_splits ..
  split
  · exact quoted_splits ..
  split
  · rename_i digit
    cases found : based? (first :: rest) with
    | none => exact number_splits first rest digit
    | some lexeme => exact based_splits _ _ found
  · exact lettered_splits ..

/-- A lexeme takes at least one character, and with its rest it is the text that was read. -/
theorem first_splits (text : Text) (lexeme : Lexeme) (found : first? text = some lexeme) :
    lexeme.Splits text := by
  cases text with
  | nil => simp [first?] at found
  | cons first rest =>
      simp only [first?, Option.some.injEq] at found
      subst found
      cases symbol : symbol? (first :: rest) with
      | none => exact startingWith_splits first rest
      | some lexeme => exact symbol_splits _ _ symbol

theorem first_shorter (text : Text) (lexeme : Lexeme) (found : first? text = some lexeme) :
    lexeme.rest.length < text.length := by
  obtain ⟨whole, nonempty⟩ := first_splits text lexeme found
  have lengths := congrArg List.length whole
  have positive := List.length_pos_iff.mpr nonempty
  simp at lengths
  omega

end Lexeme

end AnnotatedSql
