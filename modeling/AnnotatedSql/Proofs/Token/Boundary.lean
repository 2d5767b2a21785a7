/-
This file shows that a token ends in front of a blank and of a parenthesis, wherever one is put
behind it.
-/

import AnnotatedSql.Proofs.Token.Cut

namespace AnnotatedSql

variable {short other rest : Text} {lexeme : Lexeme}

/-! ### Blanks and parentheses -/

namespace CharacterClass

/-- The characters of the class one by one. -/
def members (ranges : CharacterClass) : List Char :=
  ranges.flatMap fun range => (List.range' range.1 (range.2 + 1 - range.1)).map Char.ofNat

theorem mem_members {ranges : CharacterClass} {character : Char}
    (inside : ranges.contains character) : character ∈ ranges.members := by
  obtain ⟨range, listed, within⟩ := List.any_eq_true.mp inside
  rw [Bool.and_eq_true, decide_eq_true_eq, decide_eq_true_eq] at within
  rw [members, List.mem_flatMap]
  refine ⟨range, listed, List.mem_map.mpr ⟨character.toNat, ?_, Char.ofNat_toNat character⟩⟩
  rw [List.mem_range'_1]
  omega

end CharacterClass

def isParenthesis (character : Char) : Bool := character == '(' || character == ')'

/-- A token goes on over neither a blank nor a parenthesis, unless it is a quotation. -/
def isBoundary (character : Char) : Bool := isBlank character || isParenthesis character

def boundaries : List Char := CharacterClass.blanks.members ++ ['(', ')']

theorem mem_boundaries {character : Char} (boundary : isBoundary character) :
    character ∈ boundaries := by
  rw [isBoundary, isParenthesis, Bool.or_eq_true, Bool.or_eq_true, beq_iff_eq, beq_iff_eq]
    at boundary
  rw [boundaries, List.mem_append]
  rcases boundary with blank | rfl | rfl
  · exact .inl (CharacterClass.mem_members blank)
  · exact .inr (by decide)
  · exact .inr (by decide)

/-- A class without boundaries has none of them. -/
theorem not_boundary {character : Char} {isInside : Char → Bool} (inside : isInside character)
    (none : boundaries.any isInside = false) :
    isBoundary character = false := by
  rw [← Bool.not_eq_true]
  intro boundary
  exact List.any_eq_false.mp none character (mem_boundaries boundary) inside

/-- The text starts with a blank or a parenthesis. -/
def StartsAtBoundary (text : Text) : Prop := ∃ first ∈ text.head?, isBoundary first

/-- Neither a blank nor a parenthesis is in the text. -/
def Unbroken (text : Text) : Prop := ∀ character ∈ text, isBoundary character = false

@[simp] theorem unbroken_nil : Unbroken [] := fun _ => nofun

@[simp] theorem unbroken_cons {first : Char} : Unbroken (first :: rest) ↔
    isBoundary first = false ∧ Unbroken rest := by
  simp [Unbroken]

@[simp] theorem unbroken_append : Unbroken (short ++ rest) ↔ Unbroken short ∧ Unbroken rest := by
  simp [Unbroken, or_imp, forall_and]

theorem Unbroken.tail (unbroken : Unbroken rest) : Unbroken rest.tail :=
  fun character member => unbroken character (List.mem_of_mem_tail member)

theorem unbroken_takeWhile {isInside : Char → Bool} (text : Text)
    (none : boundaries.any isInside = false) :
    Unbroken (text.takeWhile isInside) := by
  intro character member
  exact not_boundary (List.all_eq_true.mp List.all_takeWhile character member) none

namespace Trivia

theorem splitBlockComment_closed {comment : Text} (rest : Text)
    (first : ¬ ['*', '/'] <:+: comment ++ ['*']) :
    splitBlockComment (comment ++ '*' :: '/' :: rest) = (comment ++ ['*', '/'], rest) := by
  induction comment with
  | nil => rfl
  | cons character comment ih =>
      have later : ¬ ['*', '/'] <:+: comment ++ ['*'] :=
        fun found => first (found.trans (List.suffix_cons character _).isInfix)
      rw [List.cons_append, splitBlockComment, ih later]
      · rfl
      · rintro after rfl slash
        cases comment with
        | nil => cases slash
        | cons second comment =>
            obtain ⟨rfl, _⟩ := List.cons.inj slash
            exact first ⟨[], comment ++ ['*'], rfl⟩

/-- A gap in front of a text in front of which nothing is skipped is skipped as a whole. -/
theorem split_of_gap {gap text : Text} (isGap : Gap false gap) (bare : split text = ([], text)) :
    split (gap ++ text) = (gap, text) := by
  induction isGap with
  | nil => exact bare
  | blank blank _ ih => rw [List.cons_append, split_blank _ blank, ih]
  | @line comment rest noFeed opened _ ih =>
      obtain ⟨others, rfl⟩ := List.head?_eq_some_iff.mp opened
      have inside : ∀ character ∈ comment, (character != '\n') = true := by
        intro character member
        rw [bne_iff_ne]
        rintro rfl
        exact noFeed member
      simp only [List.cons_append, List.append_assoc] at ih ⊢
      rw [split, List.dropWhile_append_of_pos inside, List.takeWhile_append_of_pos inside,
        List.dropWhile_cons_of_neg (by decide), List.takeWhile_cons_of_neg (by decide), ih]
      simp
  | @block comment rest unclosed _ ih =>
      simp only [List.cons_append, List.append_assoc] at ih ⊢
      rw [split, splitBlockComment_closed _ unclosed, ih]
      simp
  | lastLine atEnd => exact absurd atEnd Bool.false_ne_true
  | openBlock atEnd => exact absurd atEnd Bool.false_ne_true

/-- Where nothing is skipped, the first character is no blank and starts no comment. -/
theorem split_none {first : Char} {rest : Text} :
    split (first :: rest) = ([], first :: rest) ↔ isBlank first = false ∧
      (first = '-' → rest.head? ≠ some '-') ∧ (first = '/' → rest.head? ≠ some '*') := by
  constructor
  · intro bare
    refine ⟨?_, ?_, ?_⟩
    · by_contra blank
      rw [Bool.not_eq_false] at blank
      rw [split_blank _ blank] at bare
      cases bare
    · rintro rfl second
      obtain ⟨after, rfl⟩ := List.head?_eq_some_iff.mp second
      rw [split] at bare
      cases bare
    · rintro rfl second
      obtain ⟨after, rfl⟩ := List.head?_eq_some_iff.mp second
      rw [split] at bare
      cases bare
  · rintro ⟨blank, minus, slash⟩
    rw [split, if_neg (by rw [blank]; decide)]
    · rintro after same rfl
      exact minus same rfl
    · rintro after same rfl
      exact slash same rfl

/-- Where nothing is skipped, nothing is skipped either if a boundary follows sooner. -/
theorem split_none_boundary (some : short ≠ [])
    (bare : split (short ++ rest) = ([], short ++ rest)) (starts : StartsAtBoundary other) :
    split (short ++ other) = ([], short ++ other) := by
  obtain ⟨first, short, rfl⟩ := List.exists_cons_of_ne_nil some
  obtain ⟨boundary, isFirst, isMark⟩ := starts
  rw [List.cons_append, split_none] at bare ⊢
  obtain ⟨blank, minus, slash⟩ := bare
  cases short with
  | cons second short => exact ⟨blank, minus, slash⟩
  | nil =>
      rw [List.nil_append, isFirst]
      refine ⟨blank, ?_, ?_⟩
      · rintro - ⟨⟩
        cases isMark
      · rintro - ⟨⟩
        cases isMark

end Trivia

namespace Lexeme

/-! ### Lexemes that no boundary is a part of -/

theorem symbol_unbroken {text : Text} (found : symbol? text = some lexeme) :
    Unbroken lexeme.text.tail := by
  obtain ⟨entry, first, rfl⟩ := Option.map_eq_some_iff.mp found
  have none : Symbol.spellings.any (·.1.toList.tail.any isBoundary) = false := by decide
  have unbroken := List.any_eq_false.mp none entry (List.mem_of_find?_eq_some first)
  rw [Bool.not_eq_true, List.any_eq_false] at unbroken
  intro character member
  rw [← Bool.not_eq_true]
  exact unbroken character member

theorem isDigit_boundaries : boundaries.any Char.isDigit = false := by decide

theorem isHexDigit_boundaries : boundaries.any isHexDigit = false := by decide

theorem isBit_boundaries : boundaries.any isBit = false := by decide

theorem continuesName_boundaries : boundaries.any continuesName = false := by decide +kernel

theorem based_unbroken {text : Text} (found : based? text = some lexeme) :
    Unbroken lexeme.text.tail := by
  have hexadecimal (text : Text) : Unbroken (text.takeWhile isHexDigit) :=
    unbroken_takeWhile text isHexDigit_boundaries
  have bits (text : Text) : Unbroken (text.takeWhile isBit) :=
    unbroken_takeWhile text isBit_boundaries
  unfold based? at found
  split at found
  · next letter digit rest =>
      split at found
      · next inside =>
          obtain rfl := Option.some.inj found
          have first := not_boundary inside.2 isHexDigit_boundaries
          rcases inside.1 with rfl | rfl <;> simp [first, hexadecimal] <;> decide
      · split at found
        · next inside =>
            obtain rfl := Option.some.inj found
            have first := not_boundary inside.2 isBit_boundaries
            rcases inside.1 with rfl | rfl <;> simp [first, bits] <;> decide
        · cases found
  · cases found

theorem digits_unbroken (text : Text) : Unbroken (text.takeWhile Char.isDigit) :=
  unbroken_takeWhile text isDigit_boundaries

theorem splitDecimal_unbroken (text : Text) : Unbroken (splitDecimal text).1 := by
  unfold splitDecimal
  split
  · next digit rest point =>
      dsimp only
      split
      · next isDigit =>
          have first := not_boundary isDigit isDigit_boundaries
          simp [digits_unbroken, first]
          decide
      · exact digits_unbroken text
  · exact digits_unbroken text

theorem splitSign_unbroken (text : Text) : Unbroken (Text.splitSign text).1 := by
  unfold Text.splitSign
  split <;> simp <;> decide

theorem number_unbroken (text : Text) : Unbroken (number text).text := by
  have decimal := splitDecimal_unbroken text
  unfold number
  dsimp only
  split
  · exact decimal
  · next letter rest _ =>
      have sign := splitSign_unbroken rest
      split
      · next exponent =>
          have first : isBoundary letter = false := by
            rcases exponent with rfl | rfl <;> decide
          split <;> simp [decimal, sign, first, digits_unbroken]
      · exact decimal

theorem wordOrError_unbroken (first : Char) (rest : Text) :
    Unbroken (wordOrError first rest).text.tail := by
  unfold wordOrError word
  split
  · exact unbroken_takeWhile rest continuesName_boundaries
  · exact unbroken_nil

theorem quotedDigits_unbroken {kind : TokenKind} {isDigit : Char → Bool} {letter : Char}
    (rest : Text) (none : boundaries.any isDigit = false) :
    Unbroken (quotedDigits kind isDigit letter rest).text.tail := by
  have digits := unbroken_takeWhile rest none
  have mark : isBoundary '\'' = false := by decide
  unfold quotedDigits
  split <;> simp [digits, mark]

theorem lettered_unbroken (first : Char) (rest : Text) :
    Unbroken (lettered first rest).text.tail := by
  unfold lettered
  split
  · split
    · exact quotedDigits_unbroken _ isHexDigit_boundaries
    · split
      · exact quotedDigits_unbroken _ isBit_boundaries
      · exact wordOrError_unbroken first _
  · exact wordOrError_unbroken first rest

/-- Where no quotation starts, no boundary stands behind the first character of a lexeme. -/
theorem first_unbroken {first : Char} (plain : ∀ quotation : Quotation, first ≠ quotation.opening)
    (found : first? (first :: rest) = some lexeme) : Unbroken lexeme.text.tail := by
  rw [first?, Option.some.injEq] at found
  subst found
  cases symbol : symbol? (first :: rest) with
  | some lexeme => exact symbol_unbroken symbol
  | none =>
      rw [Option.getD_none, startingWith_plain plain]
      split
      · cases based : based? (first :: rest) with
        | some lexeme => exact based_unbroken based
        | none => exact (number_unbroken _).tail
      · exact lettered_unbroken first rest

/-- A boundary behind a lexeme is not a part of it, unless a quotation is still open. -/
theorem first_boundary (found : first? short = some lexeme)
    (closed : ∀ quotation : Quotation, short.head? = some quotation.opening →
      lexeme.kind ≠ .error quotation.unclosed) (starts : StartsAtBoundary other) :
    first? (short ++ other) = some (lexeme.followedBy (lexeme.rest ++ other)) := by
  obtain ⟨boundary, isFirst, isMark⟩ := starts
  obtain ⟨first, short, rfl⟩ : ∃ first rest, short = first :: rest := by
    cases short with
    | nil => cases found
    | cons first rest => exact ⟨first, rest, rfl⟩
  by_cases opened : ∃ quotation : Quotation, first = quotation.opening
  · obtain ⟨quotation, rfl⟩ := opened
    have noSymbol : symbol? (quotation.opening :: short) = none := by
      cases quotation <;> rfl
    rw [first?, noSymbol, Option.getD_none, startingWith_opening, quoted, Option.some.injEq] at found
    split at found
    · next body after read =>
        subst found
        obtain ⟨contents, rfl⟩ := splitQuoted_contents read
        have parts := splitQuoted_append _ _ _ read
        have further : (after ++ other).head? ≠ some quotation.closing := by
          intro closes
          cases after with
          | cons second after => exact splitQuoted_single read closes
          | nil =>
              obtain rfl := Option.some.inj (isFirst.symm.trans closes)
              cases quotation <;> exact absurd isMark (by decide)
        have written := first_write quotation contents further
        have whole : quotation.write contents ++ (after ++ other) =
            quotation.opening :: short ++ other := by
          rw [← parts]
          simp [Quotation.write, Text.enclose]
        rw [whole] at written
        exact written
    · next missing =>
        subst found
        exact absurd rfl (closed quotation rfl)
  · have plain (quotation : Quotation) : first ≠ quotation.opening :=
      fun same => opened ⟨quotation, same⟩
    obtain ⟨longer, run⟩ : ∃ longer, first? (first :: short ++ other) = some longer := ⟨_, rfl⟩
    have unmarked := first_unbroken plain run
    obtain ⟨kept, behind⟩ : ∃ kept, longer.rest = kept ++ other := by
      rcases List.append_eq_append_iff.mp (first_splits _ _ run).1 with
        ⟨kept, _, behind⟩ | ⟨excess, whole, behind⟩
      · exact ⟨kept, behind⟩
      · cases excess with
        | nil => exact ⟨[], behind.symm⟩
        | cons mark excess =>
            rw [behind] at isFirst
            obtain rfl : mark = boundary := Option.some.inj isFirst
            have inside := unmarked mark (by rw [whole]; simp)
            exact absurd (inside.symm.trans isMark) Bool.false_ne_true
    have cut := first_cut run behind
    rw [found] at cut
    obtain rfl := Option.some.inj cut
    rw [run, Option.some.injEq, followedBy, followedBy]
    exact congrArg (Lexeme.mk longer.kind longer.text) behind

end Lexeme

end AnnotatedSql
