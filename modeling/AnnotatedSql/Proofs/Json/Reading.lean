/-
This file reads JSON texts: a text is cut into pieces, which forgets the white space between them,
and the pieces are put together to a value.
Only what a rendering can hold is read: numbers are integers, and no escape stands for half of a
surrogate pair.
-/

import AnnotatedSql.Json
import AnnotatedSql.Text.Digits
import Mathlib.Data.Nat.Digits.Defs

namespace AnnotatedSql.Json

/-! ### Characters -/

/-- The white space that may stand between two pieces. -/
def isSpace (character : Char) : Bool :=
  character == ' ' || character == '\n' || character == '\r' || character == '\t'

/-- The digit's value, in base 16. -/
def hexDigit? (digit : Char) : Option Nat :=
  if digit.isDigit then some (Text.digitValue digit)
  else if 'a' ≤ digit ∧ digit ≤ 'f' then some (digit.toNat - 'a'.toNat + 10)
  else if 'A' ≤ digit ∧ digit ≤ 'F' then some (digit.toNat - 'A'.toNat + 10)
  else none

/-- What a character after a backslash stands for. -/
def unescape? (character : Char) : Option Char :=
  if character = '"' ∨ character = '\\' ∨ character = '/' then some character
  else if character = 'b' then some '\x08'
  else if character = 't' then some '\t'
  else if character = 'n' then some '\n'
  else if character = 'f' then some '\x0c'
  else if character = 'r' then some '\r'
  else none

/-- The character with the given code; half of a surrogate pair is no character. -/
def character? (code : Nat) : Option Char :=
  if code.isValidChar then some (Char.ofNat code) else none

/-! ### Pieces -/

/-- A JSON text is a row of these. -/
inductive Piece
  | openArray | closeArray | openObject | closeObject | comma | colon
  | null
  | boolean (value : Bool)
  | integer (value : Int)
  | string (text : Text)
deriving DecidableEq, Repr

namespace Piece

def text : Piece → Text
  | .openArray => ['[']
  | .closeArray => [']']
  | .openObject => ['\x7b']
  | .closeObject => ['\x7d']
  | .comma => [',']
  | .colon => [':']
  | .null => "null".toList
  | .boolean value => booleanText value
  | .integer value => integerText value
  | .string text => stringText text

/-- Nothing in a word tells where it ends. -/
def isWord : Piece → Bool
  | .null | .boolean _ | .integer _ => true
  | _ => false

/-- The piece that is a single sign. -/
def sign? (character : Char) : Option Piece :=
  [openArray, closeArray, openObject, closeObject, comma, colon].find? (·.text == [character])

end Piece

/-- The characters of words. -/
def isPlain (character : Char) : Bool :=
  !isSpace character && character != '"' && (Piece.sign? character).isNone

/-- Digits; a zero comes first only if it stands alone. -/
def natural? (digits : Text) : Option Nat :=
  if digits ≠ [] ∧ digits.all Char.isDigit ∧ (digits.head? = some '0' → digits = ['0']) then
    some (Text.digitsValue digits)
  else
    none

def integer? : Text → Option Int
  | '-' :: digits => (natural? digits).map fun value => -(value : Int)
  | digits => (natural? digits).map Int.ofNat

def word? (text : Text) : Option Piece :=
  if text = "null".toList then some .null
  else if text = "true".toList then some (.boolean true)
  else if text = "false".toList then some (.boolean false)
  else (integer? text).map .integer

/-! ### From a text to its pieces -/

/-- Where a reader stands in a text; what it has read of a word or a literal is kept. -/
inductive Reading
  | between
  | word (before : Text)
  | literal (before : Text)
  | escape (before : Text)
  | code (before : Text) (value further : Nat)

namespace Reading

/-- The character after a complete piece. -/
def start (character : Char) : List Piece × Reading :=
  if isSpace character then ([], .between)
  else if character = '"' then ([], .literal [])
  else match Piece.sign? character with
    | some piece => ([piece], .between)
    | none => ([], .word [character])

/-- The pieces that are complete with one more character. -/
def step? : Reading → Char → Option (List Piece × Reading)
  | .between, character => some (start character)
  | .word before, character =>
      if isPlain character then some ([], .word (before ++ [character]))
      else (word? before).map fun piece => (piece :: (start character).1, (start character).2)
  | .literal before, character =>
      if character = '"' then some ([.string before], .between)
      else if character = '\\' then some ([], .escape before)
      else if character.toNat < 32 then none
      else some ([], .literal (before ++ [character]))
  | .escape before, character =>
      if character = 'u' then some ([], .code before 0 3)
      else (unescape? character).map fun meant => ([], .literal (before ++ [meant]))
  | .code before value further, character =>
      (hexDigit? character).bind fun digit =>
        match further with
        | further + 1 => some ([], .code before (16 * value + digit) further)
        | 0 => (character? (16 * value + digit)).map fun meant => ([], .literal (before ++ [meant]))

/-- The pieces that are complete with the end of the text. -/
def finish? : Reading → Option (List Piece)
  | .between => some []
  | .word before => (word? before).map ([·])
  | _ => none

/-- The pieces of a text from where the reader stands. -/
def pieces? : Reading → Text → Option (List Piece)
  | reading, [] => reading.finish?
  | reading, character :: rest =>
      (reading.step? character).bind fun (pieces, next) => (next.pieces? rest).map (pieces ++ ·)

end Reading

/-! ### From the pieces to the value -/

/-- An array or object that is not complete yet, with what was read of it. -/
inductive Frame
  | items (before : List Json)
  | fields (before : List (String × Json)) (key : String)

mutual

/-- A value is to come; the frames are open around it, the innermost first. -/
def readValue : List Frame → List Piece → Option Json
  | frames, .null :: rest => readRest frames .null rest
  | frames, .boolean value :: rest => readRest frames (.boolean value) rest
  | frames, .integer value :: rest => readRest frames (.integer value) rest
  | frames, .string text :: rest => readRest frames (.string text) rest
  | frames, .openArray :: rest => readValue (.items [] :: frames) rest
  -- Where a value is due, only an array of which nothing was read yet may be closed.
  | .items [] :: frames, .closeArray :: rest => readRest frames (.array []) rest
  | frames, .openObject :: .closeObject :: rest => readRest frames (.object []) rest
  | frames, .openObject :: .string key :: .colon :: rest =>
      readValue (.fields [] (String.ofList key) :: frames) rest
  | _, _ => none

/-- A value is complete. -/
def readRest : List Frame → Json → List Piece → Option Json
  | [], value, [] => some value
  | .items before :: frames, value, .comma :: rest =>
      readValue (.items (before ++ [value]) :: frames) rest
  | .items before :: frames, value, .closeArray :: rest =>
      readRest frames (.array (before ++ [value])) rest
  | .fields before key :: frames, value, .comma :: .string next :: .colon :: rest =>
      readValue (.fields (before ++ [(key, value)]) (String.ofList next) :: frames) rest
  | .fields before key :: frames, value, .closeObject :: rest =>
      readRest frames (.object (before ++ [(key, value)])) rest
  | _, _, _ => none

end

/-- The value of a JSON text. -/
def read? (text : Text) : Option Json := (Reading.between.pieces? text).bind (readValue [])

/-! ### Words are read up to the next other character -/

variable {character : Char} {text after : Text} {piece : Piece}

/-- A word ends before this text. -/
def Ends (after : Text) : Prop := ∀ character ∈ after.head?, isPlain character = false

theorem Ends.cons (other : isPlain character = false) : Ends (character :: after) := by
  intro first starts
  rw [List.head?_cons, Option.mem_some_iff] at starts
  rw [← starts, other]

theorem isPlain_parts (plain : isPlain character = true) :
    isSpace character = false ∧ character ≠ '"' ∧ Piece.sign? character = none := by
  rw [isPlain, Bool.and_eq_true, Bool.and_eq_true, Bool.not_eq_true', bne_iff_ne,
    Option.isNone_iff_eq_none] at plain
  exact ⟨plain.1.1, plain.1.2, plain.2⟩

/-- Only the number zero is written with a zero first. -/
theorem eq_zero_of_toDigits (value : Nat) :
    (Nat.toDigits 10 value).head? = some '0' → value = 0 := by
  induction value using Nat.strongRecOn with
  | ind value ih =>
      intro starts
      rw [Nat.toDigits_eq_if (by decide)] at starts
      split at starts
      · next small =>
          have digits : ∀ digit < 10, [Nat.digitChar digit].head? = some '0' → digit = 0 := by
            decide
          exact digits value small starts
      · next large =>
          rw [List.head?_append, Option.or_of_isSome
            (List.isSome_head?.mpr Nat.toDigits_ne_nil)] at starts
          have front := ih (value / 10) (by omega) starts
          omega

theorem natural_toDigits (value : Nat) : natural? (Nat.toDigits 10 value) = some value := by
  have digits : (Nat.toDigits 10 value).all Char.isDigit :=
    List.all_eq_true.mpr fun _ inside =>
      Nat.isDigit_of_mem_toDigits (by decide) (by decide) inside
  have alone : (Nat.toDigits 10 value).head? = some '0' → Nat.toDigits 10 value = ['0'] := by
    intro starts
    rw [eq_zero_of_toDigits value starts]
    rfl
  rw [natural?, if_pos ⟨Nat.toDigits_ne_nil, digits, alone⟩]
  exact congrArg some Nat.ofDigitChars_ten_toDigits

theorem integerText_ofNat (value : Nat) : integerText (.ofNat value) = Nat.toDigits 10 value :=
  Nat.toList_repr

theorem integerText_negSucc (value : Nat) :
    integerText (.negSucc value) = '-' :: Nat.toDigits 10 (value + 1) := by
  rw [integerText, Int.toString_eq_repr, Int.repr, String.toList_append, Nat.toList_repr]
  rfl

theorem integer_integerText : ∀ value : Int, integer? (integerText value) = some value
  | .ofNat value => by
      rw [integerText_ofNat]
      have whole := natural_toDigits value
      unfold integer?
      split
      · next digits written =>
          rw [written] at whole
          simp [natural?] at whole
      · rw [whole]
        rfl
  | .negSucc value => by
      rw [integerText_negSucc, integer?, natural_toDigits]
      rfl

theorem isPlain_of_isDigit (digit : character.isDigit = true) : isPlain character = true := by
  have different (sign : Char) (other : sign.isDigit = false) : character ≠ sign := by
    rintro rfl
    rw [digit] at other
    contradiction
  have reversed (sign : Char) (other : sign.isDigit = false) : sign ≠ character :=
    (different sign other).symm
  simp (disch := decide) [isPlain, isSpace, Piece.sign?, Piece.text, different, reversed]

theorem isPlain_of_isWord (word : piece.isWord = true) : piece.text.all isPlain = true := by
  have digits (value : Nat) : (Nat.toDigits 10 value).all isPlain = true :=
    List.all_eq_true.mpr fun _ inside =>
      isPlain_of_isDigit (Nat.isDigit_of_mem_toDigits (by decide) (by decide) inside)
  cases piece with
  | null => rfl
  | boolean value => cases value <;> rfl
  | integer value =>
      cases value with
      | ofNat value => rw [Piece.text, integerText_ofNat, digits]
      | negSucc value =>
          rw [Piece.text, integerText_negSucc, List.all_cons, digits]
          rfl
  | _ => contradiction

theorem word_text (word : piece.isWord = true) : word? piece.text = some piece := by
  cases piece with
  | null => rfl
  | boolean value => cases value <;> rfl
  | integer value =>
      have read := integer_integerText value
      have other (fixed : Text) (noInteger : integer? fixed = none) :
          integerText value ≠ fixed := by
        intro written
        rw [written, noInteger] at read
        contradiction
      rw [Piece.text, word?, if_neg (other _ rfl), if_neg (other _ rfl), if_neg (other _ rfl), read]
      rfl
  | _ => contradiction

/-! ### One piece of a text -/

namespace Reading

variable {reading next : Reading}

/-- Inside a word or a literal. -/
theorem pieces_within (next : Reading) (steps : reading.step? character = some ([], next)) :
    reading.pieces? (character :: after) = next.pieces? after := by
  rw [pieces?, steps, Option.bind_some]
  exact Option.map_id'

theorem pieces_complete (steps : reading.step? character = some ([piece], next)) :
    reading.pieces? (character :: after) = (next.pieces? after).map (piece :: ·) := by
  rw [pieces?, steps, Option.bind_some]
  rfl

theorem start_plain (plain : isPlain character = true) :
    start character = ([], word [character]) := by
  obtain ⟨solid, unquoted, unsigned⟩ := isPlain_parts plain
  rw [start, solid, if_neg Bool.false_ne_true, if_neg unquoted, unsigned]

theorem pieces_word (plain : text.all isPlain = true) (before : Text) :
    (word before).pieces? (text ++ after) = (word (before ++ text)).pieces? after := by
  induction text generalizing before with
  | nil => rw [List.nil_append, List.append_nil]
  | cons first rest ih =>
      rw [List.all_cons, Bool.and_eq_true] at plain
      rw [List.cons_append, pieces_within _ (by rw [step?, if_pos plain.1]), ih plain.2,
        List.append_assoc]
      rfl

theorem pieces_wordEnd (ends : Ends after) (reads : word? text = some piece) :
    (word text).pieces? after = (between.pieces? after).map (piece :: ·) := by
  cases after with
  | nil =>
      rw [pieces?, finish?, reads]
      rfl
  | cons first rest =>
      have other : ¬isPlain first = true := by
        rw [ends first rfl]
        exact Bool.false_ne_true
      rw [pieces?, step?, if_neg other, reads, pieces?, step?, Option.map_some, Option.bind_some,
        Option.bind_some, Option.map_map]
      rfl

theorem pieces_escape {sign : Char} (before : Text) (noCode : sign ≠ 'u')
    (means : unescape? sign = some character) :
    (literal before).pieces? ('\\' :: sign :: after) =
      (literal (before ++ [character])).pieces? after := by
  rw [pieces_within (escape before) rfl]
  exact pieces_within _ (by rw [step?, if_neg noCode, means]; rfl)

/-- The code of a control character needs no more than the last two of its four digits. -/
theorem pieces_code (before : Text) (control : character.toNat < 32) :
    (literal before).pieces? ('\\' :: 'u' :: '0' :: '0' ::
        Nat.digitChar (character.toNat / 16) :: Nat.digitChar (character.toNat % 16) :: after) =
      (literal (before ++ [character])).pieces? after := by
  have digit : ∀ value < 16, hexDigit? (Nat.digitChar value) = some value := by decide
  have high := digit (character.toNat / 16) (by omega)
  have low := digit (character.toNat % 16) (by omega)
  have whole : character? (16 * (character.toNat / 16) + character.toNat % 16) = some character := by
    have valid : character.toNat.isValidChar := character.valid
    rw [Nat.div_add_mod, character?, if_pos valid, Char.ofNat_toNat]
  rw [pieces_within (escape before) rfl, pieces_within (code before 0 3) rfl,
    pieces_within (code before 0 2) rfl, pieces_within (code before 0 1) rfl,
    pieces_within (code before (character.toNat / 16) 0) (by
      rw [step?, high, Option.bind_some, Nat.mul_zero, Nat.zero_add])]
  exact pieces_within _ (by rw [step?, low, Option.bind_some, whole]; rfl)

/-- An escaped character is read as the character. -/
theorem pieces_escapeCharacter (character : Char) (before : Text) :
    (literal before).pieces? (escapeCharacter character ++ after) =
      (literal (before ++ [character])).pieces? after := by
  unfold escapeCharacter
  split
  · next marked =>
      rw [Bool.or_eq_true, beq_iff_eq, beq_iff_eq] at marked
      obtain rfl | rfl := marked <;> exact pieces_escape before (by decide) rfl
  · next unmarked =>
      simp only [Bool.or_eq_true, beq_iff_eq, not_or] at unmarked
      repeat
        split
        · next named =>
            rw [beq_iff_eq] at named
            subst named
            exact pieces_escape before (by decide) rfl
      split
      · next control => exact pieces_code before control
      · next printable =>
          exact pieces_within _ (by
            rw [step?, if_neg unmarked.1, if_neg unmarked.2, if_neg printable])

theorem pieces_stringText (text : Text) :
    between.pieces? (stringText text ++ after) =
      (between.pieces? after).map (Piece.string text :: ·) := by
  have contents (before : Text) :
      (literal before).pieces? (text.flatMap escapeCharacter ++ '"' :: after) =
        (literal (before ++ text)).pieces? ('"' :: after) := by
    induction text generalizing before with
    | nil => rw [List.append_nil]; rfl
    | cons first rest ih =>
        rw [List.flatMap_cons, List.append_assoc, pieces_escapeCharacter, ih, List.append_assoc]
        rfl
  rw [stringText, List.append_assoc]
  exact (pieces_within _ rfl).trans ((contents []).trans (pieces_complete rfl))

/-- Every piece is read back; a word must not run on into the text after it. -/
theorem pieces_text (piece : Piece) (ends : piece.isWord = true → Ends after) :
    between.pieces? (piece.text ++ after) = (between.pieces? after).map (piece :: ·) := by
  by_cases isWord : piece.isWord = true
  -- A word is complete only with the character behind it, so it is the one that needs an end.
  · have plain := isPlain_of_isWord isWord
    have reads := word_text isWord
    cases written : piece.text with
    | nil =>
        rw [written] at reads
        contradiction
    | cons first rest =>
        rw [written] at plain reads
        rw [List.all_cons, Bool.and_eq_true] at plain
        rw [List.cons_append, pieces_within _ (by rw [step?, start_plain plain.1]),
          pieces_word plain.2]
        exact pieces_wordEnd (ends isWord) reads
  · cases piece with
    | string text => exact pieces_stringText text
    | null | boolean value | integer value => exact absurd rfl isWord
    | _ => exact pieces_complete rfl

end Reading

end AnnotatedSql.Json
