/-
This file says which texts are tokens of which kind, and shows that the lexer reads exactly these
and always the longest of them.
-/

import AnnotatedSql.Proofs.Text.LetterCase
import AnnotatedSql.Proofs.Token.Boundary
import Mathlib.Data.List.TakeWhile

namespace AnnotatedSql

/-! ### The classes -/

/-- At least one character, all of them of one class. -/
structure Text.Run (isInside : Char → Bool) (text : Text) : Prop where
  nonempty : text ≠ []
  inside : ∀ character ∈ text, isInside character = true

/-- The bases of numbers that are no decimal numbers. -/
inductive Radix
  | hexadecimal
  | binary
deriving DecidableEq, Repr

namespace Radix

def kind : Radix → TokenKind
  | .hexadecimal => .hexadecimal
  | .binary => .bitValue

/-- The letter that announces the digits, as a small letter. -/
def letter : Radix → Char
  | .hexadecimal => 'x'
  | .binary => 'b'

def isDigit : Radix → Char → Bool
  | .hexadecimal => isHexDigit
  | .binary => isBit

/-- The letter of the base, small or a capital. -/
def Announces (radix : Radix) (letter : Char) : Prop :=
  letter = radix.letter ∨ letter = radix.letter.toUpper

end Radix

namespace LexicalClass

/-- An optional fraction. -/
inductive Fraction : Text → Prop
  | absent : Fraction []
  | present {digits : Text} : digits.Run Char.isDigit → Fraction ('.' :: digits)

/-- An optional exponent with an optional sign. -/
inductive Exponent : Text → Prop
  | absent : Exponent []
  | present {letter : Char} {sign digits : Text} : letter = 'e' ∨ letter = 'E' →
      sign ∈ [[], ['+'], ['-']] → digits.Run Char.isDigit → Exponent (letter :: sign ++ digits)

end LexicalClass

/-- The texts of each kind of token. -/
inductive LexicalClass : TokenKind → Text → Prop
  | symbol {entry : String × Symbol} :
      entry ∈ Symbol.spellings → LexicalClass (.symbol entry.2) entry.1.toList
  | number {whole fraction exponent : Text} :
      whole.Run Char.isDigit → LexicalClass.Fraction fraction → LexicalClass.Exponent exponent →
      LexicalClass .number (whole ++ fraction ++ exponent)
  | based {radix : Radix} {letter : Char} {digits : Text} :
      radix.Announces letter → digits.Run radix.isDigit →
      LexicalClass radix.kind ('0' :: letter :: digits)
  | quotedDigits {radix : Radix} {letter : Char} {digits : Text} :
      radix.Announces letter → (∀ digit ∈ digits, radix.isDigit digit = true) →
      LexicalClass radix.kind (letter :: '\'' :: digits ++ ['\''])
  | quotation (quotation : Quotation) (contents : Text) :
      LexicalClass quotation.kind (quotation.write contents)
  | keyword {word : Keyword} {text : Text} :
      text.upper = word.spelling.toList → LexicalClass (.keyword word) text
  | identifier {first : Char} {rest : Text} :
      startsName first = true → (∀ character ∈ rest, continuesName character = true) →
      (∀ word : Keyword, Text.upper (first :: rest) ≠ word.spelling.toList) →
      LexicalClass .identifier (first :: rest)

/-! ### Runs -/

variable {isInside : Char → Bool} {text rest : Text} {lexeme : Lexeme} {kind : TokenKind}

/-- A run ends where a character of another class follows. -/
theorem Text.takeWhile_all (inside : ∀ character ∈ text, isInside character = true)
    (outside : ∀ character ∈ rest.head?, isInside character = false) :
    (text ++ rest).takeWhile isInside = text ∧ (text ++ rest).dropWhile isInside = rest := by
  rw [List.takeWhile_append_of_pos inside, List.dropWhile_append_of_pos inside]
  cases rest with
  | nil => exact ⟨List.append_nil text, rfl⟩
  | cons first rest =>
      have other : ¬ isInside first = true := by
        rw [outside first rfl]
        exact Bool.false_ne_true
      rw [List.takeWhile_cons_of_neg other, List.dropWhile_cons_of_neg other]
      exact ⟨List.append_nil text, rfl⟩

theorem Text.takeWhile_whole (inside : ∀ character ∈ text, isInside character = true) :
    text.takeWhile isInside = text ∧ text.dropWhile isInside = [] :=
  ⟨List.takeWhile_eq_self_iff.mpr inside, List.dropWhile_eq_nil_iff.mpr inside⟩

theorem Text.mem_takeWhile : ∀ character ∈ text.takeWhile isInside, isInside character = true :=
  List.all_eq_true.mp List.all_takeWhile

namespace Lexeme

/-! ### Texts that no mark starts -/

/-- An ASCII character that is neither a letter nor a digit nor an underscore. -/
def isMark (character : Char) : Bool :=
  decide (character.toNat < 128) && !character.isAlpha && !character.isDigit && character != '_'

theorem isMark_opening (quotation : Quotation) : isMark quotation.opening = true := by
  cases quotation <;> rfl

/-- Neither a symbol nor a quotation starts with a character that is no mark. -/
theorem first_unmarked {first : Char} (other : isMark first = false) (rest : Text) :
    first? (first :: rest) = some
      (if first.isDigit then (based? (first :: rest)).getD (number (first :: rest))
        else lettered first rest) := by
  have marks : Symbol.spellings.all (fun entry => entry.1.toList.head?.all isMark) = true := by
    decide
  have noSymbol : symbol? (first :: rest) = none := by
    rw [symbol?, Option.map_eq_none_iff, List.find?_eq_none]
    intro entry listed leads
    obtain ⟨tail, whole⟩ := List.isPrefixOf_iff_prefix.mp leads
    have mark := List.all_eq_true.mp marks entry listed
    cases spelling : entry.1.toList with
    | nil => exact absurd spelling (Symbol.spellings_nonempty entry listed)
    | cons start others =>
        rw [spelling, List.cons_append, List.cons.injEq] at whole
        rw [spelling, List.head?_cons, Option.all_some, whole.1, other] at mark
        cases mark
  have plain (quotation : Quotation) : first ≠ quotation.opening := by
    rintro rfl
    rw [isMark_opening] at other
    cases other
  rw [first?, noSymbol, Option.getD_none, startingWith_plain plain]

theorem isMark_digit {first : Char} (digit : first.isDigit = true) : isMark first = false := by
  simp [isMark, digit]

theorem isAlpha_iff_toNat {character : Char} : character.isAlpha = true ↔
    65 ≤ character.toNat ∧ character.toNat ≤ 90 ∨ 97 ≤ character.toNat ∧ character.toNat ≤ 122 := by
  change (decide ('A'.val ≤ character.val ∧ character.val ≤ 'Z'.val) ||
    (decide ('a'.val ≤ character.val) && decide (character.val ≤ 'z'.val))) = true ↔ _
  simp only [Bool.or_eq_true, Bool.and_eq_true, decide_eq_true_eq, UInt32.le_iff_toNat_le]
  rfl

/-- Beyond their ASCII ranges, the tables of letters and of numerals have no ASCII characters. -/
theorem contains_ascii {first : Char} (ascii : first.toNat < 128) :
    CharacterClass.contains (CharacterClass.letters.drop 2) first = false ∧
      CharacterClass.contains (CharacterClass.numerals.drop 1) first = false := by
  have far : (CharacterClass.letters.drop 2 ++ CharacterClass.numerals.drop 1).all
      (fun range => decide (128 ≤ range.1)) = true := by decide +kernel
  have none {ranges : CharacterClass} (all : ranges.all (fun range => decide (128 ≤ range.1)) = true) :
      ranges.contains first = false := by
    rw [CharacterClass.contains, List.any_eq_false]
    intro range listed inside
    have far := of_decide_eq_true (List.all_eq_true.mp all range listed)
    have near := (Bool.and_eq_true_iff.mp inside).1
    rw [decide_eq_true_eq] at near
    omega
  rw [List.all_append, Bool.and_eq_true] at far
  exact ⟨none far.1, none far.2⟩

theorem isLetter_ascii {first : Char} (ascii : first.toNat < 128) :
    isLetter first = first.isAlpha := by
  have split : CharacterClass.letters =
      (0x41, 0x5A) :: (0x61, 0x7A) :: CharacterClass.letters.drop 2 := rfl
  have none := (contains_ascii ascii).1
  rw [CharacterClass.contains] at none
  rw [isLetter, split, CharacterClass.contains, List.any_cons, List.any_cons, none,
    Bool.or_false, Bool.eq_iff_iff, isAlpha_iff_toNat]
  simp

/-- An ASCII character starts a name if it is a letter or an underscore. -/
theorem startsName_ascii {first : Char} (ascii : first.toNat < 128) :
    startsName first = (first.isAlpha || first == '_') := by
  rw [startsName, isLetter_ascii ascii]

theorem continuesName_apostrophe : continuesName '\'' = false := by
  have split : CharacterClass.numerals = (0x30, 0x39) :: CharacterClass.numerals.drop 1 := rfl
  have ascii : '\''.toNat < 128 := by decide
  have none := (contains_ascii ascii).2
  rw [CharacterClass.contains] at none
  rw [continuesName, isLetter_ascii ascii, split, CharacterClass.contains, List.any_cons, none]
  rfl

theorem isMark_startsName {first : Char} (starts : startsName first = true) :
    isMark first = false := by
  rw [← Bool.not_eq_true]
  intro mark
  simp only [isMark, Bool.and_eq_true, decide_eq_true_eq, Bool.not_eq_true', bne_iff_ne] at mark
  obtain ⟨⟨⟨ascii, noLetter⟩, _⟩, other⟩ := mark
  rw [startsName_ascii ascii, noLetter, Bool.false_or, beq_iff_eq] at starts
  exact other starts

theorem isDigit_of_startsName {first : Char} (starts : startsName first = true) :
    first.isDigit = false := by
  rw [← Bool.not_eq_true]
  intro digit
  have range : 48 ≤ first.toNat ∧ first.toNat ≤ 57 := Char.isDigit_iff_toNat.mp digit
  rw [startsName_ascii (by omega), Bool.or_eq_true, isAlpha_iff_toNat, beq_iff_eq] at starts
  rcases starts with letter | rfl
  · omega
  · cases digit

/-! ### Every text of a class is read as a whole -/

theorem symbol_whole {entry : String × Symbol} (listed : entry ∈ Symbol.spellings) :
    first? entry.1.toList = some ⟨.symbol entry.2, entry.1.toList, []⟩ := by
  have all : Symbol.spellings.all (fun entry =>
      decide (first? entry.1.toList = some ⟨.symbol entry.2, entry.1.toList, []⟩)) = true := by
    decide
  exact of_decide_eq_true (List.all_eq_true.mp all entry listed)

theorem exponent_head {exponent : Text} (isExponent : LexicalClass.Exponent exponent) :
    ∀ first ∈ exponent.head?, first = 'e' ∨ first = 'E' := by
  cases isExponent with
  | absent => exact fun _ => nofun
  | present letter _ _ =>
      rintro _ ⟨⟩
      exact letter

theorem splitDecimal_whole {whole fraction exponent : Text} (digits : whole.Run Char.isDigit)
    (isFraction : LexicalClass.Fraction fraction) (isExponent : LexicalClass.Exponent exponent) :
    splitDecimal (whole ++ fraction ++ exponent) = (whole ++ fraction, exponent) := by
  have noDigit : ∀ first ∈ exponent.head?, first.isDigit = false := by
    intro first isFirst
    rcases exponent_head isExponent first isFirst with rfl | rfl <;> rfl
  unfold splitDecimal
  cases isFraction with
  | absent =>
      obtain ⟨taken, behind⟩ := Text.takeWhile_all digits.inside noDigit
      rw [List.append_nil, taken, behind]
      split
      · next letter rest =>
          rcases exponent_head isExponent '.' rfl with same | same <;> cases same
      · rfl
  | @present places fractional =>
      have point : ∀ first ∈ ('.' :: places ++ exponent).head?, first.isDigit = false := by
        rintro _ ⟨⟩
        rfl
      obtain ⟨taken, behind⟩ := Text.takeWhile_all digits.inside point
      obtain ⟨first, places, rfl⟩ := List.exists_cons_of_ne_nil fractional.nonempty
      have inside := List.forall_mem_cons.mp fractional.inside
      obtain ⟨takenPlaces, behindPlaces⟩ := Text.takeWhile_all inside.2 noDigit
      rw [List.append_assoc, taken, behind]
      simp only [List.cons_append, inside.1, if_true, takenPlaces, behindPlaces]

theorem splitSign_whole {sign digits : Text} (isSign : sign ∈ [[], ['+'], ['-']])
    (isDigits : digits.Run Char.isDigit) : Text.splitSign (sign ++ digits) = (sign, digits) := by
  obtain ⟨first, digits, rfl⟩ := List.exists_cons_of_ne_nil isDigits.nonempty
  have digit := isDigits.inside first List.mem_cons_self
  simp only [List.mem_cons, List.not_mem_nil, or_false] at isSign
  rcases isSign with rfl | rfl | rfl
  · rw [List.nil_append]
    unfold Text.splitSign
    split
    · next same =>
        rw [(List.cons.inj same).1] at digit
        cases digit
    · next same =>
        rw [(List.cons.inj same).1] at digit
        cases digit
    · rfl
  · rfl
  · rfl

theorem number_whole {whole fraction exponent : Text} (digits : whole.Run Char.isDigit)
    (isFraction : LexicalClass.Fraction fraction) (isExponent : LexicalClass.Exponent exponent) :
    number (whole ++ fraction ++ exponent) = ⟨.number, whole ++ fraction ++ exponent, []⟩ := by
  have decimal := splitDecimal_whole digits isFraction isExponent
  unfold number
  rw [decimal]
  cases isExponent with
  | absent => simp
  | @present letter sign power isLetter isSign isPower =>
      have taken := Text.takeWhile_whole isPower.inside
      simp only [List.cons_append, isLetter, if_true, splitSign_whole isSign isPower, taken.1,
        taken.2, isPower.nonempty, if_false, List.append_assoc]

/-- Where no letter of a base is the second character, there are no digits of a base. -/
theorem based_none {text : Text}
    (other : ∀ letter ∈ text.tail.head?, ∀ radix : Radix, ¬ radix.Announces letter) :
    based? text = none := by
  unfold based?
  split
  · next letter digit rest =>
      have others := other letter rfl
      rw [if_neg fun both => others .hexadecimal both.1, if_neg fun both => others .binary both.1]
  · rfl

theorem announces_other {radix : Radix} {letter : Char} (announces : radix.Announces letter) :
    letter.isDigit = false ∧ letter ≠ '.' ∧ letter ≠ 'e' ∧ letter ≠ 'E' := by
  cases radix <;> rcases announces with rfl | rfl <;> decide

theorem number_unbased {whole fraction exponent : Text} (digits : whole.Run Char.isDigit)
    (isFraction : LexicalClass.Fraction fraction) (isExponent : LexicalClass.Exponent exponent) :
    based? (whole ++ fraction ++ exponent) = none := by
  apply based_none
  intro letter second radix announces
  obtain ⟨noDigit, noPoint, small, capital⟩ := announces_other announces
  obtain ⟨first, whole, rfl⟩ := List.exists_cons_of_ne_nil digits.nonempty
  rw [List.cons_append, List.cons_append, List.tail_cons] at second
  cases whole with
  | cons next whole =>
      obtain rfl : next = letter := Option.some.inj second
      have digit := digits.inside next (by simp)
      rw [noDigit] at digit
      cases digit
  | nil =>
      cases isFraction with
      | present => exact noPoint (Option.some.inj second).symm
      | absent =>
          rcases exponent_head isExponent letter second with rfl | rfl
          · exact small rfl
          · exact capital rfl

theorem based_whole {radix : Radix} {letter : Char} {digits : Text}
    (announces : radix.Announces letter) (isDigits : digits.Run radix.isDigit) :
    based? ('0' :: letter :: digits) = some ⟨radix.kind, '0' :: letter :: digits, []⟩ := by
  obtain ⟨first, digits, rfl⟩ := List.exists_cons_of_ne_nil isDigits.nonempty
  have inside := List.forall_mem_cons.mp isDigits.inside
  have taken := Text.takeWhile_whole inside.2
  cases radix with
  | hexadecimal =>
      have run : digits.takeWhile isHexDigit = digits := taken.1
      have behind : digits.dropWhile isHexDigit = [] := taken.2
      rw [based?, if_pos ⟨announces, inside.1⟩, run, behind]
      rfl
  | binary =>
      have other : ¬ (letter = 'x' ∨ letter = 'X') := by
        rcases announces with rfl | rfl <;> decide
      have run : digits.takeWhile isBit = digits := taken.1
      have behind : digits.dropWhile isBit = [] := taken.2
      rw [based?, if_neg fun both => other both.1, if_pos ⟨announces, inside.1⟩, run, behind]
      rfl

theorem lettered_quotedDigits {radix : Radix} {letter : Char} (announces : radix.Announces letter)
    (after : Text) :
    lettered letter ('\'' :: after) = quotedDigits radix.kind radix.isDigit letter after := by
  cases radix with
  | hexadecimal => exact if_pos announces
  | binary =>
      have other : ¬ (letter = 'x' ∨ letter = 'X') := by
        rcases announces with rfl | rfl <;> decide
      exact (if_neg other).trans (if_pos announces)

theorem quotedDigits_whole {radix : Radix} {letter : Char} {digits : Text}
    (isDigits : ∀ digit ∈ digits, radix.isDigit digit = true) :
    quotedDigits radix.kind radix.isDigit letter (digits ++ ['\'']) =
      ⟨radix.kind, letter :: '\'' :: digits ++ ['\''], []⟩ := by
  have mark : ∀ first ∈ ['\''].head?, radix.isDigit first = false := by
    rintro _ ⟨⟩
    cases radix <;> rfl
  obtain ⟨taken, behind⟩ := Text.takeWhile_all isDigits mark
  unfold quotedDigits
  rw [taken, behind]
  rfl

end Lexeme

namespace Keyword

variable {word : Keyword}

theorem ofSpelling_eq (spelled : text.upper = word.spelling.toList) :
    ofSpelling? text = some word := by
  have found : all.all (fun word => decide
      (all.find? (fun other => other.spelling.toList == word.spelling.toList) = some word)) = true := by
    decide
  rw [ofSpelling?, spelled]
  exact of_decide_eq_true (List.all_eq_true.mp found word (mem_all word))

theorem spelling_of_ofSpelling (found : ofSpelling? text = some word) :
    text.upper = word.spelling.toList := by
  rw [ofSpelling?] at found
  have spelled := List.find?_some found
  exact (beq_iff_eq.mp spelled).symm

theorem ofSpelling_none : ofSpelling? text = none ↔
    ∀ word : Keyword, text.upper ≠ word.spelling.toList := by
  rw [ofSpelling?, List.find?_eq_none]
  constructor
  · intro missing word spelled
    exact missing word (mem_all word) (beq_iff_eq.mpr spelled.symm)
  · intro missing word _ spelled
    exact missing word (beq_iff_eq.mp spelled).symm

/-- A keyword in any letter case is spelled like a name. -/
theorem startsName_of_spelling (spelled : text.upper = word.spelling.toList) :
    ∀ character ∈ text, startsName character = true := by
  intro character member
  have letters : all.all (fun word => word.spelling.toList.all Char.isAlpha) = true := by decide
  have capital : character.toUpper ∈ word.spelling.toList := by
    rw [← spelled]
    exact List.mem_map_of_mem member
  have letter := List.all_eq_true.mp (List.all_eq_true.mp letters word (mem_all word)) _ capital
  have ascii : character.toUpper.toNat < 128 := by
    have range := Lexeme.isAlpha_iff_toNat.mp letter
    omega
  rw [← Recasing.capitals.startsName_letter character]
  exact (Lexeme.startsName_ascii ascii).trans (by rw [letter, Bool.true_or])

end Keyword

namespace Lexeme

/-- The kind of a word is settled by its spelling. -/
def wordKind (text : Text) : TokenKind :=
  ((Keyword.ofSpelling? text).map .keyword).getD .identifier

theorem word_eq (first : Char) (rest : Text) : word first rest =
    ⟨wordKind (first :: rest.takeWhile continuesName), first :: rest.takeWhile continuesName,
      rest.dropWhile continuesName⟩ := by
  rw [word, wordKind]
  cases Keyword.ofSpelling? (first :: rest.takeWhile continuesName) <;> rfl

/-- A word is read as a whole. -/
theorem word_whole {first : Char} {rest : Text} (starts : startsName first = true)
    (continues : ∀ character ∈ rest, continuesName character = true) :
    first? (first :: rest) = some ⟨wordKind (first :: rest), first :: rest, []⟩ := by
  have taken := Text.takeWhile_whole continues
  have other : rest.head? ≠ some '\'' := by
    intro mark
    obtain ⟨rest, rfl⟩ := List.head?_eq_some_iff.mp mark
    have name := continues '\'' List.mem_cons_self
    exact Bool.false_ne_true (continuesName_apostrophe.symm.trans name)
  rw [first_unmarked (isMark_startsName starts), isDigit_of_startsName starts, if_neg Bool.false_ne_true,
    lettered_other first other, wordOrError, if_pos starts, word_eq, taken.1, taken.2]

/-- Every text of a class is one lexeme of its kind. -/
theorem first_whole (isClass : LexicalClass kind text) : first? text = some ⟨kind, text, []⟩ := by
  cases isClass with
  | symbol listed => exact symbol_whole listed
  | @number whole fraction exponent digits isFraction isExponent =>
      obtain ⟨first, whole, rfl⟩ := List.exists_cons_of_ne_nil digits.nonempty
      have digit := digits.inside first List.mem_cons_self
      have unbased := number_unbased digits isFraction isExponent
      have read := number_whole digits isFraction isExponent
      simp only [List.cons_append] at unbased read ⊢
      rw [first_unmarked (isMark_digit digit), if_pos digit, unbased, Option.getD_none, read]
  | @based radix letter digits announces isDigits =>
      have digit : '0'.isDigit = true := rfl
      rw [first_unmarked (isMark_digit digit), if_pos digit, based_whole announces isDigits,
        Option.getD_some]
  | @quotedDigits radix letter digits announces isDigits =>
      have starts : startsName letter = true := by
        cases radix <;> rcases announces with rfl | rfl <;> exact startsName_ascii (by decide)
      rw [List.cons_append, List.cons_append, first_unmarked (isMark_startsName starts),
        isDigit_of_startsName starts, if_neg Bool.false_ne_true, lettered_quotedDigits announces,
        quotedDigits_whole isDigits]
      rfl
  | quotation quotation contents =>
      have written := @first_write quotation contents [] nofun
      rwa [List.append_nil] at written
  | @keyword word text spelled =>
      have names := Keyword.startsName_of_spelling spelled
      cases text with
      | nil =>
          cases word <;> cases spelled
      | cons first rest =>
          rw [List.forall_mem_cons] at names
          rw [word_whole names.1 fun character member =>
            continuesName_of_startsName character (names.2 character member), wordKind,
            Keyword.ofSpelling_eq spelled]
          rfl
  | @identifier first rest starts continues other =>
      rw [word_whole starts continues, wordKind, Keyword.ofSpelling_none.mpr other]
      rfl

/-! ### Every lexeme is of the class of its kind -/

theorem splitDecimal_class {first : Char} (digit : first.isDigit = true) (rest : Text) :
    ∃ whole fraction, (splitDecimal (first :: rest)).1 = whole ++ fraction ∧
      whole.Run Char.isDigit ∧ LexicalClass.Fraction fraction := by
  have run : Text.Run Char.isDigit ((first :: rest).takeWhile Char.isDigit) := by
    refine ⟨?_, Text.mem_takeWhile⟩
    rw [List.takeWhile_cons_of_pos digit]
    exact List.cons_ne_nil _ _
  unfold splitDecimal
  dsimp only
  split
  · next next others _ =>
      split
      · next isDigit =>
          refine ⟨_, _, rfl, run, .present ⟨List.cons_ne_nil _ _, ?_⟩⟩
          exact List.forall_mem_cons.mpr ⟨isDigit, Text.mem_takeWhile⟩
      · exact ⟨_, [], (List.append_nil _).symm, run, .absent⟩
  · exact ⟨_, [], (List.append_nil _).symm, run, .absent⟩

theorem splitSign_class (text : Text) : (Text.splitSign text).1 ∈ [[], ['+'], ['-']] := by
  unfold Text.splitSign
  split <;> simp

theorem number_class {first : Char} (digit : first.isDigit = true)
    (legible : ∀ cause, (number (first :: rest)).kind ≠ .error cause) :
    LexicalClass (number (first :: rest)).kind (number (first :: rest)).text := by
  obtain ⟨whole, fraction, decimal, run, isFraction⟩ := splitDecimal_class digit rest
  have plain : LexicalClass .number (whole ++ fraction) := by
    have absent := LexicalClass.number run isFraction .absent
    rwa [List.append_nil] at absent
  unfold number at legible ⊢
  dsimp only at legible ⊢
  rw [decimal] at legible ⊢
  split at legible
  · exact plain
  · next letter after _ =>
      split at legible
      · next exponent =>
          split at legible
          · exact absurd rfl (legible _)
          · next some =>
              rw [if_pos exponent, if_neg some]
              have power : Text.Run Char.isDigit ((Text.splitSign after).2.takeWhile Char.isDigit) :=
                ⟨some, Text.mem_takeWhile⟩
              have isExponent := LexicalClass.Exponent.present exponent (splitSign_class after) power
              have whole := LexicalClass.number run isFraction isExponent
              simpa using whole
      · next other =>
          rw [if_neg other]
          exact plain

theorem based_class (found : based? text = some lexeme) : LexicalClass lexeme.kind lexeme.text := by
  unfold based? at found
  split at found
  · next letter digit rest =>
      split at found
      · next inside =>
          obtain rfl := Option.some.inj found
          exact @LexicalClass.based .hexadecimal _ _ inside.1
            ⟨List.cons_ne_nil _ _, List.forall_mem_cons.mpr ⟨inside.2, Text.mem_takeWhile⟩⟩
      · split at found
        · next inside =>
            obtain rfl := Option.some.inj found
            exact @LexicalClass.based .binary _ _ inside.1
              ⟨List.cons_ne_nil _ _, List.forall_mem_cons.mpr ⟨inside.2, Text.mem_takeWhile⟩⟩
        · cases found
  · cases found

theorem quotedDigits_class {radix : Radix} {letter : Char} (announces : radix.Announces letter)
    (legible : ∀ cause, (quotedDigits radix.kind radix.isDigit letter rest).kind ≠ .error cause) :
    LexicalClass (quotedDigits radix.kind radix.isDigit letter rest).kind
      (quotedDigits radix.kind radix.isDigit letter rest).text := by
  unfold quotedDigits at legible ⊢
  dsimp only at legible ⊢
  split at legible
  · exact .quotedDigits announces Text.mem_takeWhile
  · exact absurd rfl (legible _)

theorem wordOrError_class {first : Char}
    (legible : ∀ cause, (wordOrError first rest).kind ≠ .error cause) :
    LexicalClass (wordOrError first rest).kind (wordOrError first rest).text := by
  unfold wordOrError at legible ⊢
  split at legible
  · next starts =>
      rw [if_pos starts, word_eq, wordKind]
      cases found : Keyword.ofSpelling? (first :: rest.takeWhile continuesName) with
      | some word =>
          exact .keyword (Keyword.spelling_of_ofSpelling found)
      | none => exact .identifier starts Text.mem_takeWhile (Keyword.ofSpelling_none.mp found)
  · exact absurd rfl (legible _)

theorem lettered_class {first : Char}
    (legible : ∀ cause, (lettered first rest).kind ≠ .error cause) :
    LexicalClass (lettered first rest).kind (lettered first rest).text := by
  unfold lettered at legible ⊢
  split at legible
  · split at legible
    · next announces =>
        rw [if_pos announces]
        exact @quotedDigits_class _ .hexadecimal _ announces legible
    · next other =>
        split at legible
        · next announces =>
            rw [if_neg other, if_pos announces]
            exact @quotedDigits_class _ .binary _ announces legible
        · next plain =>
            rw [if_neg other, if_neg plain]
            exact wordOrError_class legible
  · exact wordOrError_class legible

/-- What is read and is no error is a text of the class of its kind. -/
theorem first_class (found : first? text = some lexeme)
    (legible : ∀ cause, lexeme.kind ≠ .error cause) : LexicalClass lexeme.kind lexeme.text := by
  obtain ⟨first, rest, rfl⟩ : ∃ first rest, text = first :: rest := by
    cases text with
    | nil => cases found
    | cons first rest => exact ⟨first, rest, rfl⟩
  rw [first?, Option.some.injEq] at found
  subst found
  cases symbol : symbol? (first :: rest) with
  | some lexeme =>
      obtain ⟨entry, isFirst, rfl⟩ := Option.map_eq_some_iff.mp symbol
      exact .symbol (List.mem_of_find?_eq_some isFirst)
  | none =>
      rw [symbol, Option.getD_none] at legible
      rw [Option.getD_none]
      by_cases opened : ∃ quotation : Quotation, first = quotation.opening
      · obtain ⟨quotation, rfl⟩ := opened
        rw [startingWith_opening, quoted] at legible ⊢
        split at legible
        · next read =>
            obtain ⟨contents, rfl⟩ := splitQuoted_contents read
            exact .quotation quotation contents
        · exact absurd rfl (legible _)
      · rw [startingWith_plain fun quotation same => opened ⟨quotation, same⟩] at legible ⊢
        split at legible
        · next digit =>
            rw [if_pos digit]
            cases based : based? (first :: rest) with
            | some lexeme => exact based_class based
            | none =>
                rw [based] at legible
                exact number_class digit legible
        · next noDigit =>
            rw [if_neg noDigit]
            exact lettered_class legible

/-- No text of any class is a longer start of what a lexeme was read from. -/
theorem first_longest (found : first? text = some lexeme) {longer : Text}
    (isClass : LexicalClass kind longer) (leads : longer <+: text) :
    longer.length ≤ lexeme.text.length := by
  obtain ⟨dropped, rfl⟩ := leads
  rcases List.append_eq_append_iff.mp (first_splits _ _ found).1 with
    ⟨kept, whole, left⟩ | ⟨excess, whole, _⟩
  · have cut := first_cut found left
    rw [first_whole isClass, Option.some.injEq, followedBy, Lexeme.mk.injEq] at cut
    rw [cut.2.1]
  · rw [whole, List.length_append]
    exact Nat.le_add_right _ _

end Lexeme

/-- Where a token stands, it is the first lexeme of what is left. -/
theorem Reader.tokens_read (reader : Reader) : ∀ token ∈ reader.tokens, token.kind ≠ .endOfInput →
    ∃ before lexeme, reader.unread = before ++ (lexeme.text ++ lexeme.rest) ∧
      reader.offset + before.byteLength = token.span.start ∧
      Lexeme.first? (lexeme.text ++ lexeme.rest) = some lexeme ∧
      token.kind = lexeme.kind ∧ token.text = lexeme.text := by
  fun_induction tokens reader with
  | case1 reader atEnd =>
      intro token member more
      rw [List.mem_singleton.mp member] at more
      exact absurd atEnd more
  | case2 reader more ih =>
      obtain ⟨lexeme, found⟩ : ∃ lexeme,
          Lexeme.first? (Trivia.split reader.unread).2 = some lexeme := by
        cases found : Lexeme.first? (Trivia.split reader.unread).2 with
        | some lexeme => exact ⟨lexeme, rfl⟩
        | none =>
            rw [next_none found] at more
            exact absurd rfl more
      have skipped := Trivia.split_append reader.unread
      have splits := (Lexeme.first_splits _ _ found).1
      rw [← splits] at found skipped
      rw [next_some (splits ▸ found)] at ih ⊢
      intro token member notEnd
      rcases List.mem_cons.mp member with rfl | later
      · exact ⟨_, lexeme, skipped.symm, rfl, found, rfl, rfl⟩
      · obtain ⟨before, read, unread, offset, rest⟩ := ih token later notEnd
        refine ⟨(Trivia.split reader.unread).1 ++ lexeme.text ++ before, read, ?_, ?_, rest⟩
        · rw [List.append_assoc, List.append_assoc, ← unread]
          exact skipped.symm
        · rw [← offset, Text.byteLength_append, Text.byteLength_append, Nat.add_assoc,
            Nat.add_assoc, Nat.add_assoc]

theorem LexicalClass.upper_ne (isClass : LexicalClass kind text) (identifier : kind = .identifier)
    (word : Keyword) : text.upper ≠ word.spelling.toList := by
  cases isClass with
  | identifier _ _ other => exact other word
  | @based radix | @quotedDigits radix => cases radix <;> cases identifier
  | quotation quotation => cases quotation <;> cases identifier
  | _ => cases identifier

/-- The text of a token that is no error is one of the class of its kind. -/
theorem tokenize_class {source : Text} {token : Token} (member : token ∈ tokenize source)
    (more : token.kind ≠ .endOfInput) (legible : ∀ cause, token.kind ≠ .error cause) :
    LexicalClass token.kind token.text := by
  obtain ⟨_, lexeme, _, _, found, kind, text⟩ :=
    (Reader.ofSource source).tokens_read token member more
  rw [kind] at legible
  rw [kind, text]
  exact Lexeme.first_class found legible

/-- The text of an identifier is that of no keyword. -/
theorem tokenize_identifier {source : Text} {token : Token} (member : token ∈ tokenize source)
    (identifier : token.kind = .identifier) (word : Keyword) :
    token.text.upper ≠ word.spelling.toList := by
  have isClass := tokenize_class member (by simp [identifier]) (by simp [identifier])
  exact isClass.upper_ne identifier word

theorem tokenize_number {source : Text} {token : Token} (member : token ∈ tokenize source)
    (number : token.kind = .number) : LexicalClass .number token.text := by
  rw [← number]
  exact tokenize_class member (by simp [number]) (by simp [number])

/-- Every token that is no error is a text of the class of its kind, and what is left of the source
where it stands starts with no longer text of any class. -/
theorem tokenize_longest (source : Text) : ∀ token ∈ tokenize source,
    token.kind ≠ .endOfInput → (∀ cause, token.kind ≠ .error cause) →
    LexicalClass token.kind token.text ∧
      ∃ before after, source = before ++ (token.text ++ after) ∧
        before.byteLength = token.span.start ∧
        ∀ kind longer, LexicalClass kind longer → longer <+: token.text ++ after →
          longer.length ≤ token.text.length := by
  intro token member more legible
  obtain ⟨before, lexeme, whole, start, found, kind, text⟩ :=
    (Reader.ofSource source).tokens_read token member more
  rw [kind] at legible
  rw [kind, text]
  refine ⟨Lexeme.first_class found legible, before, lexeme.rest, whole, ?_, ?_⟩
  · rw [← start]
    exact (Nat.zero_add _).symm
  · intro kind longer isClass leads
    exact Lexeme.first_longest found isClass leads

/-- Digits that no exponent can follow are the longest number. -/
theorem tokenize_longest_point : LexicalClass .number "1.5".toList ∧
    ∀ kind longer, LexicalClass kind longer → longer <+: "1.5.e+2".toList → longer.length ≤ 3 := by
  have listed : Token.placed .number "1.5".toList 0 ∈ tokenize "1.5.e+2".toList := by
    decide +kernel
  obtain ⟨isClass, before, after, whole, start, longest⟩ :=
    tokenize_longest _ _ listed nofun fun _ => nofun
  have nothing : before = [] := by
    by_contra some
    have positive := Text.byteLength_pos some
    rw [start] at positive
    exact Nat.lt_irrefl 0 positive
  subst nothing
  rw [List.nil_append] at whole
  rw [← whole] at longest
  exact ⟨isClass, longest⟩

end AnnotatedSql
