/-
This file reads quoted names and quoted strings.
Inside quotes the closing mark is written twice.
-/

import AnnotatedSql.Text

namespace AnnotatedSql

namespace Text

/-- Every mark is written twice. -/
def double (mark : Char) (text : Text) : Text :=
  text.flatMap fun character => if character = mark then [mark, mark] else [character]

/-- Every pair of marks becomes one, from the left. -/
def undouble (mark : Char) : Text → Text
  | first :: second :: rest =>
      if first = mark ∧ second = mark then mark :: undouble mark rest
      else first :: undouble mark (second :: rest)
  | rest => rest

/-- The text between an opening and a closing mark, closing marks inside written twice. -/
def enclose (opening closing : Char) (text : Text) : Text :=
  opening :: double closing text ++ [closing]

/-- The text without its first and last character. -/
def inner (text : Text) : Text := text.tail.dropLast

/-- The text is more than one character and starts and ends with the marks. -/
def isEnclosed (opening closing : Char) (text : Text) : Bool :=
  2 ≤ text.length && text.head? == some opening && text.getLast? == some closing

theorem undouble_double (mark : Char) (text : Text) : undouble mark (double mark text) = text := by
  induction text with
  | nil => rfl
  | cons character rest ih =>
      by_cases marked : character = mark
      · simpa [double, marked, undouble] using ih
      · cases rest with
        | nil => simp [double, marked, undouble]
        | cons second after =>
            by_cases secondMarked : second = mark
            · simpa [double, marked, secondMarked, undouble] using ih
            · simpa [double, marked, secondMarked, undouble] using ih

theorem inner_enclose (opening closing : Char) (text : Text) :
    inner (enclose opening closing text) = double closing text := by
  simp [inner, enclose]

theorem isEnclosed_enclose (opening closing : Char) (text : Text) :
    isEnclosed opening closing (enclose opening closing text) = true := by
  simp only [isEnclosed, enclose, List.length_append, List.length_cons, List.length_nil,
    List.cons_append, List.head?_cons, Bool.and_eq_true, decide_eq_true_eq, beq_iff_eq]
  refine ⟨⟨by omega, trivial⟩, ?_⟩
  rw [← List.cons_append, List.getLast?_append]
  rfl

end Text

/-- How a name is written in the source. -/
inductive QuoteStyle
  | bare
  | quote
  | backQuote
  | bracket
deriving DecidableEq, Repr

namespace QuoteStyle

def name : QuoteStyle → String
  | .bare => "None"
  | .quote => "Quote"
  | .backQuote => "BackQuote"
  | .bracket => "Bracket"

/-- The opening and the closing mark of a style that has them. -/
def delimiters? : QuoteStyle → Option (Char × Char)
  | .bare => none
  | .quote => some ('"', '"')
  | .backQuote => some ('\x60', '\x60')
  | .bracket => some ('[', ']')

end QuoteStyle

/-- A name without its quotes, and the style in which it was written. -/
structure Name where
  value : Text
  style : QuoteStyle
deriving DecidableEq, Repr

namespace Name

/-- The written form of a name is read by its outer marks; other text is a bare name. -/
def ofText (text : Text) : Name :=
  if text.isEnclosed '"' '"' then ⟨text.inner.undouble '"', .quote⟩
  else if text.isEnclosed '\x60' '\x60' then ⟨text.inner.undouble '\x60', .backQuote⟩
  else if text.isEnclosed '[' ']' then ⟨text.inner.undouble ']', .bracket⟩
  else ⟨text, .bare⟩

end Name

/-- The contents of a string literal; text that is not enclosed keeps its ends. -/
def stringContents (text : Text) : Text :=
  if text.isEnclosed '\'' '\'' then text.inner.undouble '\'' else text.undouble '\''

theorem stringContents_enclose (text : Text) :
    stringContents (text.enclose '\'' '\'') = text := by
  simp [stringContents, Text.isEnclosed_enclose, Text.inner_enclose, Text.undouble_double]

end AnnotatedSql
