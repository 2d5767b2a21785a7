/-
This file shows which readings of a text do not depend on the case of its ASCII letters.
-/

import AnnotatedSql.Keyword
import AnnotatedSql.Ordinal
import AnnotatedSql.Quoting
import AnnotatedSql.Span
import AnnotatedSql.Text.Letter
import AnnotatedSql.Vocabulary

namespace AnnotatedSql

/-! ### Characters -/

/-- The letters that have a capital. -/
def smallLetters : Text := "abcdefghijklmnopqrstuvwxyz".toList

theorem mem_smallLetters {character : Char} (changes : character.toUpper ≠ character) :
    character ∈ smallLetters := by
  have small : 97 ≤ character.toNat ∧ character.toNat ≤ 122 := by
    refine Decidable.byContradiction fun other => changes (dif_neg ?_)
    intro both
    exact other ⟨UInt32.le_iff_toNat_le.mp both.1, UInt32.le_iff_toNat_le.mp both.2⟩
  have listed : ∀ number : Fin 26, Char.ofNat (97 + number) ∈ smallLetters := by decide
  have found := listed ⟨character.toNat - 97, by omega⟩
  have same : 97 + (character.toNat - 97) = character.toNat := by omega
  simp only [same, Char.ofNat_toNat] at found
  exact found

/-- What is the same for each of the small letters and its capital does not depend on case. -/
theorem apply_toUpper {Value : Type} (reading : Char → Value)
    (letters : smallLetters.map (fun small => reading small.toUpper) = smallLetters.map reading)
    (character : Char) : reading character.toUpper = reading character := by
  by_cases changes : character.toUpper = character
  · rw [changes]
  · exact List.map_inj_left.mp letters character (mem_smallLetters changes)

/-- A change of nothing but the case of ASCII letters. -/
structure Recasing where
  letter : Char → Char
  keeps : ∀ character, (letter character).toUpper = character.toUpper

namespace Recasing

/-- Nothing changes. -/
def none : Recasing := ⟨id, fun _ => rfl⟩

/-- All ASCII letters become capitals. -/
def capitals : Recasing := ⟨Char.toUpper, apply_toUpper Char.toUpper (by decide)⟩

variable (recasing : Recasing)

theorem apply {Value : Type} (reading : Char → Value)
    (letters : smallLetters.map (fun small => reading small.toUpper) = smallLetters.map reading)
    (character : Char) : reading (recasing.letter character) = reading character := by
  rw [← apply_toUpper reading letters, recasing.keeps, apply_toUpper reading letters]

/-- A character that is no letter stays and arises from no other. -/
theorem letter_eq_iff (mark : Char) (other : mark.isAlpha = false) (character : Char) :
    recasing.letter character = mark ↔ character = mark := by
  have letters : smallLetters.map (fun small => decide (small.toUpper = mark)) =
      smallLetters.map fun small => decide (small = mark) := by
    apply List.map_congr_left
    intro small member
    have isAlpha : smallLetters.all fun small => small.isAlpha && small.toUpper.isAlpha := by decide
    obtain ⟨plain, capital⟩ := Bool.and_eq_true_iff.mp (List.all_eq_true.mp isAlpha small member)
    rw [decide_eq_false, decide_eq_false]
    · rintro rfl
      rw [plain] at other
      cases other
    · rintro rfl
      rw [capital] at other
      cases other
  have same : decide (recasing.letter character = mark) = decide (character = mark) :=
    recasing.apply (fun found => decide (found = mark)) letters character
  rwa [decide_eq_decide] at same

@[simp] theorem utf8Size_letter (character : Char) :
    (recasing.letter character).utf8Size = character.utf8Size :=
  recasing.apply Char.utf8Size (by decide) character

@[simp] theorem isBlank_letter (character : Char) :
    isBlank (recasing.letter character) = isBlank character :=
  recasing.apply isBlank (by decide) character

@[simp] theorem isDigit_letter (character : Char) :
    (recasing.letter character).isDigit = character.isDigit :=
  recasing.apply Char.isDigit (by decide) character

@[simp] theorem isHexDigit_letter (character : Char) :
    isHexDigit (recasing.letter character) = isHexDigit character :=
  recasing.apply isHexDigit (by decide) character

@[simp] theorem isBit_letter (character : Char) :
    isBit (recasing.letter character) = isBit character :=
  recasing.apply isBit (by decide) character

@[simp] theorem startsName_letter (character : Char) :
    startsName (recasing.letter character) = startsName character :=
  recasing.apply startsName (by decide) character

@[simp] theorem continuesName_letter (character : Char) :
    continuesName (recasing.letter character) = continuesName character :=
  recasing.apply continuesName (by decide) character

/-- A letter that may be small or a capital is found in any case. -/
theorem either_letter (small : Char) (isSmall : small ∈ smallLetters) (character : Char) :
    (recasing.letter character = small ∨ recasing.letter character = small.toUpper) ↔
      character = small ∨ character = small.toUpper := by
  have pairs : smallLetters.all fun small => decide
      (smallLetters.map (fun found => decide (found.toUpper = small ∨ found.toUpper = small.toUpper)) =
        smallLetters.map fun found => decide (found = small ∨ found = small.toUpper)) := by
    decide
  have same : decide (recasing.letter character = small ∨
      recasing.letter character = small.toUpper) =
        decide (character = small ∨ character = small.toUpper) :=
    recasing.apply (fun found => decide (found = small ∨ found = small.toUpper))
      (of_decide_eq_true (List.all_eq_true.mp pairs small isSmall)) character
  rwa [decide_eq_decide] at same

theorem letter_of_other (character : Char) (other : character.isAlpha = false) :
    recasing.letter character = character :=
  (recasing.letter_eq_iff character other character).mpr rfl

theorem letter_of_isDigit {character : Char} (digit : character.isDigit = true) :
    recasing.letter character = character := by
  apply recasing.letter_of_other character
  rw [← Bool.not_eq_true]
  intro letter
  have digit : 48 ≤ character.toNat ∧ character.toNat ≤ 57 := Char.isDigit_iff_toNat.mp digit
  rcases Bool.or_eq_true_iff.mp letter with upper | lower
  · obtain ⟨starts, _⟩ : 'A'.val ≤ character.val ∧ character.val ≤ 'Z'.val :=
      of_decide_eq_true upper
    have starts : 65 ≤ character.toNat := UInt32.le_iff_toNat_le.mp starts
    omega
  · have starts : 'a'.val ≤ character.val := of_decide_eq_true (Bool.and_eq_true_iff.mp lower).1
    have starts : 97 ≤ character.toNat := UInt32.le_iff_toNat_le.mp starts
    omega

/-! ### Texts -/

/-- The text with the case of its letters changed. -/
def text (source : Text) : Text := source.map recasing.letter

@[simp] theorem text_nil : recasing.text [] = [] := rfl

@[simp] theorem text_cons (character : Char) (rest : Text) :
    recasing.text (character :: rest) = recasing.letter character :: recasing.text rest := rfl

/-- A mark that is no letter starts the text if it starts the recased one. -/
theorem text_starts {mark : Char} (other : mark.isAlpha = false) {source after : Text}
    (starts : recasing.text source = mark :: after) :
    ∃ rest, source = mark :: rest ∧ after = recasing.text rest := by
  cases source with
  | nil => cases starts
  | cons first rest =>
      rw [text_cons, List.cons.injEq, recasing.letter_eq_iff mark other] at starts
      exact ⟨rest, by rw [starts.1], starts.2.symm⟩

theorem text_mark (mark : Char) (other : mark.isAlpha = false) (rest : Text) :
    recasing.text (mark :: rest) = mark :: recasing.text rest := by
  rw [text_cons, recasing.letter_of_other mark other]

@[simp] theorem text_append (first second : Text) :
    recasing.text (first ++ second) = recasing.text first ++ recasing.text second :=
  List.map_append

theorem text_flatten (texts : List Text) :
    recasing.text texts.flatten = (texts.map recasing.text).flatten :=
  List.map_flatten

@[simp] theorem text_eq_nil {source : Text} : recasing.text source = [] ↔ source = [] :=
  List.map_eq_nil_iff

@[simp] theorem length_text (source : Text) : (recasing.text source).length = source.length :=
  List.length_map _

@[simp] theorem upper_text (source : Text) : (recasing.text source).upper = source.upper := by
  rw [text, Text.upper, List.map_map]
  exact List.map_congr_left fun character _ => recasing.keeps character

@[simp] theorem byteLength_text (source : Text) :
    (recasing.text source).byteLength = source.byteLength := by
  induction source with
  | nil => rfl
  | cons character rest ih => simp [ih]

theorem takeWhile_text {holds : Char → Bool}
    (same : ∀ character, holds (recasing.letter character) = holds character) (source : Text) :
    (recasing.text source).takeWhile holds = recasing.text (source.takeWhile holds) := by
  rw [text, List.takeWhile_map, text]
  exact congrArg _ (congrArg (List.takeWhile · source) (funext same))

theorem dropWhile_text {holds : Char → Bool}
    (same : ∀ character, holds (recasing.letter character) = holds character) (source : Text) :
    (recasing.text source).dropWhile holds = recasing.text (source.dropWhile holds) := by
  rw [text, List.dropWhile_map, text]
  exact congrArg _ (congrArg (List.dropWhile · source) (funext same))

/-- Digits stay. -/
theorem text_digits {digits : Text} (all : digits.all Char.isDigit = true) :
    recasing.text digits = digits := by
  rw [text]
  refine (List.map_congr_left fun digit member => ?_).trans (List.map_id digits)
  exact recasing.letter_of_isDigit (List.all_eq_true.mp all digit member)

/-- Taking so many bytes finds the same characters. -/
theorem takeBytes_text (count : Nat) (source : Text) :
    (recasing.text source).takeBytes? count = (source.takeBytes? count).map recasing.text := by
  fun_induction Text.takeBytes? count source with
  | case1 => rw [Text.takeBytes?]; rfl
  | case2 => rfl
  | case3 count character rest fits ih =>
      rw [text_cons, Text.takeBytes?, utf8Size_letter, if_pos fits, ih, Option.map_map,
        Option.map_map]
      rfl
  | case4 count character rest large =>
      rw [text_cons, Text.takeBytes?, utf8Size_letter, if_neg large]
      rfl

theorem dropBytes_text (count : Nat) (source : Text) :
    (recasing.text source).dropBytes? count = (source.dropBytes? count).map recasing.text := by
  fun_induction Text.dropBytes? count source with
  | case1 => rw [Text.dropBytes?]; rfl
  | case2 => rfl
  | case3 count character rest fits ih =>
      rw [text_cons, Text.dropBytes?, utf8Size_letter, if_pos fits, ih]
  | case4 count character rest large =>
      rw [text_cons, Text.dropBytes?, utf8Size_letter, if_neg large]
      rfl

/-- Every span covers the same characters. -/
theorem text_under (span : Span) (source : Text) :
    span.text (recasing.text source) = recasing.text (span.text source) := by
  rw [Span.text, Span.text, Span.text?, Span.text?]
  split
  · rw [dropBytes_text]
    cases source.dropBytes? span.start with
    | none => rfl
    | some rest =>
        rw [Option.map_some, Option.bind_some, Option.bind_some, takeBytes_text]
        cases rest.takeBytes? (span.stop + 1 - span.start) <;> rfl
  · rfl

/-! ### Names, strings and words -/

variable {opening closing mark : Char}

theorem isEnclosed_text (open_ : opening.isAlpha = false) (close : closing.isAlpha = false)
    (source : Text) :
    (recasing.text source).isEnclosed opening closing = source.isEnclosed opening closing := by
  have head : ((recasing.text source).head? == some opening) = (source.head? == some opening) := by
    cases source with
    | nil => rfl
    | cons first rest => simp [Bool.beq_eq_decide_eq, recasing.letter_eq_iff opening open_]
  have last : ((recasing.text source).getLast? == some closing) =
      (source.getLast? == some closing) := by
    rw [text, List.getLast?_map]
    cases source.getLast? with
    | none => rfl
    | some found => simp [Bool.beq_eq_decide_eq, recasing.letter_eq_iff closing close]
  rw [Text.isEnclosed, Text.isEnclosed, length_text, head, last]

theorem inner_text (source : Text) : (recasing.text source).inner = recasing.text source.inner := by
  rw [Text.inner, Text.inner, text, text, ← List.map_tail, ← List.map_dropLast]

theorem undouble_text (other : mark.isAlpha = false) (source : Text) :
    (recasing.text source).undouble mark = recasing.text (source.undouble mark) := by
  fun_induction Text.undouble mark source with
  | case1 first second rest pair ih =>
      simp [Text.undouble, recasing.letter_of_other mark other, pair, ih]
  | case2 first second rest single ih =>
      rw [text_cons] at ih
      simp [Text.undouble, recasing.letter_eq_iff mark other, single, ih]
  | case3 rest short =>
      rcases rest with _ | ⟨first, _ | ⟨second, rest⟩⟩
      · rfl
      · rfl
      · exact absurd rfl (short first second rest)

theorem stringContents_text (source : Text) :
    stringContents (recasing.text source) = recasing.text (stringContents source) := by
  rw [stringContents, stringContents, recasing.isEnclosed_text (by decide) (by decide), inner_text,
    recasing.undouble_text (by decide), recasing.undouble_text (by decide)]
  split <;> rfl

/-- The case of a name changes, but not the style of its marks. -/
def name (name : Name) : Name := ⟨recasing.text name.value, name.style⟩

theorem ofText_text (source : Text) :
    Name.ofText (recasing.text source) = recasing.name (Name.ofText source) := by
  rw [Name.ofText, Name.ofText, recasing.isEnclosed_text (by decide) (by decide),
    recasing.isEnclosed_text (by decide) (by decide),
    recasing.isEnclosed_text (by decide) (by decide), inner_text,
    recasing.undouble_text (by decide), recasing.undouble_text (by decide),
    recasing.undouble_text (by decide)]
  split
  · rfl
  split
  · rfl
  split <;> rfl

theorem keyword_text (source : Text) :
    Keyword.ofSpelling? (recasing.text source) = Keyword.ofSpelling? source := by
  rw [Keyword.ofSpelling?, Keyword.ofSpelling?, upper_text]

theorem connective_text (source : Text) :
    Connective.ofText? (recasing.text source) = Connective.ofText? source := by
  rw [Connective.ofText?, Connective.ofText?, upper_text]

theorem aggregate_text (source : Text) :
    Aggregate.ofName? (recasing.text source) = Aggregate.ofName? source := by
  rw [Aggregate.ofName?, Aggregate.ofName?, upper_text]

/-! ### Numbers -/

theorem text_sign (source : Text) :
    recasing.text (Text.splitSign source).1 = (Text.splitSign source).1 := by
  unfold Text.splitSign
  split
  · exact recasing.text_mark '+' (by decide) []
  · exact recasing.text_mark '-' (by decide) []
  · rfl

theorem text_takeDigits (source : Text) :
    (recasing.text source).takeWhile Char.isDigit = source.takeWhile Char.isDigit := by
  rw [recasing.takeWhile_text recasing.isDigit_letter]
  exact recasing.text_digits List.all_takeWhile

theorem all_isDigit_text (source : Text) :
    (recasing.text source).all Char.isDigit = source.all Char.isDigit := by
  rw [text, List.all_map]
  exact congrArg source.all (funext recasing.isDigit_letter)

/-- A sign stays. -/
theorem splitSign_text (source : Text) :
    Text.splitSign (recasing.text source) =
      ((Text.splitSign source).1, recasing.text (Text.splitSign source).2) := by
  cases source with
  | nil => rfl
  | cons first rest =>
      by_cases plus : first = '+'
      · rw [plus, recasing.text_mark '+' (by decide)]
        rfl
      by_cases minus : first = '-'
      · rw [minus, recasing.text_mark '-' (by decide)]
        rfl
      have unsigned {character : Char} {further : Text} (plus : character ≠ '+')
          (minus : character ≠ '-') :
          Text.splitSign (character :: further) = ([], character :: further) := by
        rw [Text.splitSign]
        · rintro _ ⟨⟩
          exact plus rfl
        · rintro _ ⟨⟩
          exact minus rfl
      rw [text_cons, unsigned plus minus, unsigned]
      · rfl
      · rwa [Ne, recasing.letter_eq_iff '+' (by decide)]
      · rwa [Ne, recasing.letter_eq_iff '-' (by decide)]

theorem exponent_text (source : Text) :
    Decimal.exponent? (recasing.text source) = Decimal.exponent? source := by
  cases source with
  | nil => rfl
  | cons letter rest =>
      rw [text_cons, Decimal.exponent?, Decimal.exponent?, splitSign_text]
      have exponent := recasing.either_letter 'e' (by decide) letter
      simp only [Char.reduceToUpper] at exponent
      simp only [exponent, all_isDigit_text]
      by_cases digits : (Text.splitSign rest).2.all Char.isDigit = true
      · rw [recasing.text_digits digits]
      · simp [digits]

theorem splitPoint_text (source : Text) :
    Decimal.splitPoint (recasing.text source) =
      ((Decimal.splitPoint source).1, (Decimal.splitPoint source).2.1,
        recasing.text (Decimal.splitPoint source).2.2) := by
  rw [Decimal.splitPoint, Decimal.splitPoint, text_takeDigits,
    recasing.dropWhile_text recasing.isDigit_letter]
  cases source.dropWhile Char.isDigit with
  | nil => rfl
  | cons first rest =>
      by_cases point : first = '.'
      · rw [point, recasing.text_mark '.' (by decide)]
        simp only [text_takeDigits, recasing.dropWhile_text recasing.isDigit_letter]
      · have other : recasing.letter first ≠ '.' := by
          rwa [Ne, recasing.letter_eq_iff '.' (by decide)]
        simp [point, other]

theorem decimal_text (source : Text) :
    Decimal.ofText? (recasing.text source) = Decimal.ofText? source := by
  rw [Decimal.ofText?, Decimal.ofText?]
  simp only [splitSign_text, splitPoint_text, exponent_text]

theorem integer_text (source : Text) :
    Ordinal.integer? (recasing.text source) = Ordinal.integer? source := by
  rw [Ordinal.integer?, Ordinal.integer?]
  simp only [splitSign_text, all_isDigit_text]
  by_cases digits : (Text.splitSign source).2.all Char.isDigit = true
  · rw [recasing.text_digits digits]
  · simp [digits]

/-- A position is read whatever the case of its exponent. -/
theorem ordinal_text (source : Text) :
    Ordinal.ofText? (recasing.text source) = Ordinal.ofText? source := by
  have kept : (recasing.text source).filter (fun character => !isBlank character) =
      recasing.text (source.filter fun character => !isBlank character) := by
    rw [text, List.filter_map, text]
    exact congrArg _ (congrArg (List.filter · source) (funext fun character =>
      congrArg _ (recasing.isBlank_letter character)))
  rw [Ordinal.ofText?, Ordinal.ofText?]
  simp only [kept, integer_text, decimal_text]

end Recasing

end AnnotatedSql
