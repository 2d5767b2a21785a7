/-
This file shows how a number stands in its source: a number token has no blanks and no comments in
it, and what lies between a minus sign and the number behind it is a gap that belongs to neither.
-/

import AnnotatedSql.Proofs.Token.LexicalClass
import AnnotatedSql.Proofs.Token.Tiling

namespace AnnotatedSql

/-! ### Neighbours -/

/-- Of two tokens that follow each other the second one stands right behind the first one and a
gap. -/
theorem Tiled.neighbours {offset : Nat} {text : Text} {before after : List Token}
    {first second : Token} (tiled : Tiled offset text (before ++ first :: second :: after))
    (more : second.kind ≠ .endOfInput) :
    ∃ front gap behind, text = front ++ (first.text ++ gap ++ second.text) ++ behind ∧
      Gap false gap ∧
      first.span = Span.ofRange (offset + front.byteLength)
        (offset + front.byteLength + first.text.byteLength) ∧
      second.span = Span.ofRange
        (offset + front.byteLength + first.text.byteLength + gap.byteLength)
        (offset + front.byteLength + first.text.byteLength + gap.byteLength +
          second.text.byteLength) := by
  induction before generalizing offset text with
  | nil =>
      cases tiled with
      | @token _ front own rest kind _ _ _ _ tiled =>
          cases tiled with
          | ending => exact absurd rfl more
          | @token _ gap other behind _ _ isGap _ _ _ =>
              refine ⟨front, gap, behind, ?_, isGap, rfl, rfl⟩
              simp only [Token.placed, List.append_assoc]
  | cons leading before ih =>
      rw [List.cons_append] at tiled
      generalize further : before ++ first :: second :: after = others at tiled
      cases tiled with
      | ending => exact absurd further (List.append_ne_nil_of_right_ne_nil _ (List.cons_ne_nil _ _))
      | @token _ ahead own rest kind _ _ _ _ tiled =>
          subst further
          obtain ⟨front, gap, behind, rfl, isGap, firstSpan, secondSpan⟩ := ih tiled
          refine ⟨ahead ++ own ++ front, gap, behind, ?_, isGap, ?_, ?_⟩
          · simp only [List.append_assoc]
          · rw [firstSpan]
            simp only [Text.byteLength_append, Nat.add_assoc]
          · rw [secondSpan]
            simp only [Text.byteLength_append, Nat.add_assoc]

/-! ### Texts without blanks and comments -/

/-- No blank stands in the text and no comment starts in it. -/
structure Text.Unspaced (text : Text) : Prop where
  blank : ∀ character ∈ text, isBlank character = false
  line : ¬ ['-', '-'] <:+: text
  block : ¬ ['/', '*'] <:+: text

/-- The characters of numbers. -/
def isNumeric (character : Char) : Bool :=
  character.isDigit || ['.', 'e', 'E', '+', '-'].contains character

theorem isNumeric_of_isDigit {character : Char} (digit : character.isDigit = true) :
    isNumeric character = true := by
  rw [isNumeric, digit, Bool.true_or]

theorem isBlank_of_isNumeric {character : Char} (numeric : isNumeric character = true) :
    isBlank character = false := by
  have other := not_boundary numeric (by decide)
  rw [isBoundary, Bool.or_eq_false_iff] at other
  exact other.1

variable {text gap : Text}

/-! ### Texts of numbers -/

namespace LexicalClass

/-- A number starts with a digit, and it has at most one sign, that of its exponent. -/
theorem number_characters (isClass : LexicalClass .number text) :
    (∃ first ∈ text.head?, first.isDigit) ∧ (∀ character ∈ text, isNumeric character) ∧
      text.count '-' ≤ 1 := by
  have numeric {digits : Text} (run : digits.Run Char.isDigit) :
      (∀ character ∈ digits, isNumeric character) ∧ digits.count '-' = 0 := by
    refine ⟨fun character member => isNumeric_of_isDigit (run.inside character member), ?_⟩
    exact List.count_eq_zero.mpr fun member => absurd (run.inside _ member) (by decide)
  generalize kindEq : TokenKind.number = kind at isClass
  cases isClass with
  | @number whole fraction exponent digits isFraction isExponent =>
      obtain ⟨first, rest, rfl⟩ := List.exists_cons_of_ne_nil digits.nonempty
      have fractional : (∀ character ∈ fraction, isNumeric character) ∧ fraction.count '-' = 0 := by
        cases isFraction with
        | absent => exact ⟨List.forall_mem_nil _, rfl⟩
        | present digits =>
            obtain ⟨inside, count⟩ := numeric digits
            exact ⟨List.forall_mem_cons.mpr ⟨by decide, inside⟩,
              (List.count_cons_of_ne (by decide)).trans count⟩
      have exponential : (∀ character ∈ exponent, isNumeric character) ∧
          exponent.count '-' ≤ 1 := by
        cases isExponent with
        | absent => exact ⟨List.forall_mem_nil _, Nat.zero_le _⟩
        | @present letter sign digits isLetter isSign run =>
            obtain ⟨inside, count⟩ := numeric run
            have leading : (letter :: sign).all isNumeric = true ∧
                (letter :: sign).count '-' ≤ 1 := by
              simp only [List.mem_cons, List.not_mem_nil, or_false] at isSign
              rcases isLetter with rfl | rfl <;> rcases isSign with rfl | rfl | rfl <;> decide
            rw [List.count_append, count]
            exact ⟨List.forall_mem_append.mpr ⟨List.all_eq_true.mp leading.1, inside⟩, leading.2⟩
      obtain ⟨inside, count⟩ := numeric digits
      refine ⟨⟨first, rfl, digits.inside first List.mem_cons_self⟩, ?_, ?_⟩
      · simp only [List.forall_mem_append]
        exact ⟨⟨inside, fractional.1⟩, exponential.1⟩
      · rw [List.count_append, List.count_append, count, fractional.2, Nat.zero_add]
        exact exponential.2
  | @based radix | @quotedDigits radix => cases radix <;> cases kindEq
  | quotation quotation => cases quotation <;> cases kindEq
  | _ => cases kindEq

theorem number_unspaced (isClass : LexicalClass .number text) : text.Unspaced := by
  obtain ⟨_, numeric, count⟩ := isClass.number_characters
  refine ⟨fun character member => isBlank_of_isNumeric (numeric character member), ?_, ?_⟩
  · intro line
    have twice := line.sublist.count_le '-'
    exact absurd (Nat.le_trans twice count) (by decide)
  · intro block
    exact absurd (numeric '/' (block.subset List.mem_cons_self)) (by decide)

end LexicalClass

/-- A gap of some extent has a blank, or a comment starts in it. -/
theorem Gap.not_unspaced (isGap : Gap false gap) (some : gap ≠ []) : ¬ gap.Unspaced := by
  rintro ⟨blank, line, block⟩
  cases isGap with
  | nil => exact some rfl
  | blank isBlank _ =>
      rw [blank _ List.mem_cons_self] at isBlank
      exact Bool.false_ne_true isBlank
  | @line comment rest => exact line ⟨[], comment ++ rest, by simp⟩
  | @block comment rest => exact block ⟨[], comment ++ '*' :: '/' :: rest, by simp⟩
  | lastLine atEnd | openBlock atEnd => exact absurd atEnd Bool.false_ne_true

theorem Text.Unspaced.within (unspaced : text.Unspaced) (inside : gap <:+: text) :
    gap.Unspaced where
  blank character member := unspaced.blank character (inside.subset member)
  line found := unspaced.line (found.trans inside)
  block found := unspaced.block (found.trans inside)

/-- With a minus sign in front a number has blanks or comments exactly if there is something between
the sign and the number. -/
theorem unspaced_signed_iff (isClass : LexicalClass .number text) (isGap : Gap false gap) :
    Text.Unspaced ('-' :: gap ++ text) ↔ gap = [] := by
  constructor
  · intro unspaced
    by_contra some
    exact isGap.not_unspaced some (unspaced.within ⟨['-'], text, rfl⟩)
  · rintro rfl
    obtain ⟨⟨first, isFirst, digit⟩, _, _⟩ := isClass.number_characters
    obtain ⟨rest, rfl⟩ := List.head?_eq_some_iff.mp isFirst
    obtain ⟨blank, line, block⟩ := isClass.number_unspaced
    refine ⟨List.forall_mem_cons.mpr ⟨by decide, blank⟩, ?_, ?_⟩
    · intro found
      rcases List.infix_cons_iff.mp found with leading | within
      · obtain ⟨_, same⟩ := leading
        obtain ⟨rfl, _⟩ := List.cons.inj (List.cons.inj same).2
        exact absurd digit (by decide)
      · exact line within
    · intro found
      rcases List.infix_cons_iff.mp found with ⟨_, same⟩ | within
      · exact absurd (List.cons.inj same).1 (by decide)
      · exact block within

end AnnotatedSql
