/-
This file says which texts spell decimals, and shows how such texts are read: exactly, but for
exponents so large that their last digits do not count.
-/

import AnnotatedSql.Proofs.Annotate.IntegerOrdinal
import AnnotatedSql.Proofs.Decimal.Rounding
import AnnotatedSql.Proofs.Token.LexicalClass

namespace AnnotatedSql.Decimal

open AnnotatedSql.Ordinal (IsDigits magnitude digitsValue_eq)

/-! ### Spellings -/

/-- An optional sign, and whether it is a minus sign. -/
inductive SignText : Text → Bool → Prop
  | absent : SignText [] false
  | plus : SignText ['+'] false
  | minus : SignText ['-'] true

/-- An optional point with digits behind it, and these digits. -/
inductive FractionText : Text → Text → Prop
  | absent : FractionText [] []
  | present {digits : Text} : IsDigits digits → FractionText ('.' :: digits) digits

def signed (negative : Bool) (size : Nat) : Int := if negative then -(size : Int) else size

/-- An optional exponent, its value, and the value that counts in its place. -/
inductive ExponentText : Text → Int → Int → Prop
  | absent : ExponentText [] 0 0
  | present {letter : Char} {sign digits : Text} {negative : Bool} :
      letter = 'e' ∨ letter = 'E' → SignText sign negative → IsDigits digits →
      ExponentText (letter :: (sign ++ digits)) (signed negative (magnitude digits))
        (signed negative (exponentSize digits))

/-- An optional sign and digits, with a fraction or an exponent or both; the decimal that the text
spells, and the one for which it is taken. -/
inductive Spells : Text → Decimal → Decimal → Prop
  | decimal {sign whole point fraction power : Text} {negative : Bool} {exponent counted : Int} :
      SignText sign negative → IsDigits whole → FractionText point fraction →
      ExponentText power exponent counted → point ++ power ≠ [] →
      Spells (sign ++ (whole ++ (point ++ power)))
        ⟨negative, magnitude (whole ++ fraction), exponent - fraction.length⟩
        ⟨negative, magnitude (whole ++ fraction), counted - fraction.length⟩

variable {text sign digits whole point fraction power rest : Text} {negative : Bool}
  {exponent counted : Int} {exact taken : Decimal}

/-- A number token with a fraction or an exponent spells a decimal. -/
theorem exists_spells (isClass : LexicalClass .number text) (other : ¬ IsDigits text) :
    ∃ exact taken, Spells text exact taken := by
  have run {digits : Text} (run : digits.Run Char.isDigit) : IsDigits digits :=
    ⟨run.nonempty, run.inside⟩
  generalize kindEq : TokenKind.number = kind at isClass
  cases isClass with
  | @number whole point power digits isFraction isExponent =>
      obtain ⟨fraction, isFraction⟩ : ∃ fraction, FractionText point fraction := by
        cases isFraction with
        | absent => exact ⟨_, .absent⟩
        | present digits => exact ⟨_, .present (run digits)⟩
      obtain ⟨exponent, counted, isExponent⟩ :
          ∃ exponent counted, ExponentText power exponent counted := by
        cases isExponent with
        | absent => exact ⟨_, _, .absent⟩
        | @present letter sign digits isLetter isSign digitsRun =>
            have isSign : ∃ negative, SignText sign negative := by
              simp only [List.mem_cons, List.not_mem_nil, or_false] at isSign
              rcases isSign with rfl | rfl | rfl
              · exact ⟨_, .absent⟩
              · exact ⟨_, .plus⟩
              · exact ⟨_, .minus⟩
            obtain ⟨negative, isSign⟩ := isSign
            exact ⟨_, _, .present isLetter isSign (run digitsRun)⟩
      have more : point ++ power ≠ [] := by
        intro nothing
        rw [List.append_assoc, nothing, List.append_nil] at other
        exact other (run digits)
      have spells := Spells.decimal .absent (run digits) isFraction isExponent more
      rw [List.nil_append, ← List.append_assoc] at spells
      exact ⟨_, _, spells⟩
  | @based radix | @quotedDigits radix => cases radix <;> cases kindEq
  | quotation quotation => cases quotation <;> cases kindEq
  | _ => cases kindEq

/-! ### Exponents -/

theorem magnitude_append (digits : Text) (last : Char) :
    magnitude (digits ++ [last]) = 10 * magnitude digits + Text.digitValue last := by
  rw [← digitsValue_eq, ← digitsValue_eq, Text.digitsValue_append]

/-- The size of an exponent is exact, or it is large and the exponent is large. -/
theorem exponentSize_cases (digits : Text) :
    exponentSize digits = magnitude digits ∨
      65536 ≤ exponentSize digits ∧ 65536 ≤ magnitude digits := by
  induction digits using List.reverseRecOn with
  | nil => exact .inl rfl
  | append_singleton digits last ih =>
      have step : exponentSize (digits ++ [last]) =
          if exponentSize digits < 65536 then 10 * exponentSize digits + Text.digitValue last
          else exponentSize digits := by
        rw [exponentSize, List.foldl_append]
        rfl
      rw [step, magnitude_append]
      split <;> omega

/-! ### Reading -/

/-- A sign is split off what starts with a digit. -/
theorem SignText.splitSign (isSign : SignText sign negative) {first : Char}
    (digit : first.isDigit = true) :
    Text.splitSign (sign ++ first :: rest) = (sign, first :: rest) := by
  cases isSign with
  | plus | minus => rfl
  | absent =>
      rw [List.nil_append]
      unfold Text.splitSign
      split
      next same =>
        rw [(List.cons.inj same).1] at digit
        exact absurd digit (by decide)
      next same =>
        rw [(List.cons.inj same).1] at digit
        exact absurd digit (by decide)
      next => rfl

theorem SignText.isMinus (isSign : SignText sign negative) : (sign == ['-']) = negative := by
  cases isSign <;> rfl

theorem ExponentText.outside (isExponent : ExponentText power exponent counted) :
    ∀ character ∈ power.head?, character.isDigit = false := by
  cases isExponent with
  | absent => exact fun _ member => absurd member (Option.not_mem_none _)
  | present isLetter =>
      rintro character ⟨⟩
      rcases isLetter with rfl | rfl <;> rfl

theorem ExponentText.reads (isExponent : ExponentText power exponent counted) :
    exponent? power = some counted := by
  cases isExponent with
  | absent => rfl
  | @present letter sign digits negative isLetter isSign isDigits =>
      obtain ⟨first, others, rfl⟩ := List.exists_cons_of_ne_nil isDigits.1
      have all := List.all_eq_true.mpr isDigits.2
      rw [exponent?, isSign.splitSign (isDigits.2 first List.mem_cons_self)]
      dsimp only
      rw [if_pos ⟨isLetter, isDigits.1, all⟩, signed]
      cases isSign <;> rfl

/-- The digits of the whole part end in front of the point or the exponent. -/
theorem FractionText.outside (isFraction : FractionText point fraction)
    (isExponent : ExponentText power exponent counted) :
    ∀ character ∈ (point ++ power).head?, character.isDigit = false := by
  cases isFraction with
  | absent => exact isExponent.outside
  | present =>
      rintro character ⟨⟩
      rfl

/-- The digits around the point and the exponent behind them. -/
theorem FractionText.splitPoint (isWhole : IsDigits whole)
    (isFraction : FractionText point fraction)
    (isExponent : ExponentText power exponent counted) :
    splitPoint (whole ++ (point ++ power)) = (whole, fraction, power) := by
  obtain ⟨digits, rest⟩ := Text.takeWhile_all isWhole.2 (isFraction.outside isExponent)
  rw [Decimal.splitPoint, digits, rest]
  cases isFraction with
  | present isDigits =>
      obtain ⟨digits, rest⟩ := Text.takeWhile_all isDigits.2 isExponent.outside
      change (whole, (fraction ++ power).takeWhile _, (fraction ++ power).dropWhile _) = _
      rw [digits, rest]
  | absent =>
      cases isExponent with
      | absent => rfl
      | present isLetter => rcases isLetter with rfl | rfl <;> rfl

/-- A decimal is read with its sign, its digits and the exponent for which its own is taken. -/
theorem Spells.ofText (spells : Spells text exact taken) : ofText? text = some taken := by
  cases spells with
  | decimal isSign isWhole isFraction isExponent more =>
      obtain ⟨first, others, rfl⟩ := List.exists_cons_of_ne_nil isWhole.1
      rw [ofText?, List.cons_append, isSign.splitSign (isWhole.2 first List.mem_cons_self),
        ← List.cons_append, isFraction.splitPoint isWhole isExponent]
      dsimp only
      rw [if_neg (fun nothing => isWhole.1 nothing.1), isExponent.reads, isSign.isMinus,
        digitsValue_eq]
      rfl

/-- No decimal is read as an integer. -/
theorem Spells.integer (spells : Spells text exact taken) : Ordinal.integer? text = none := by
  cases spells with
  | @decimal sign whole point fraction power _ _ _ isSign isWhole isFraction isExponent more =>
      obtain ⟨first, others, rfl⟩ := List.exists_cons_of_ne_nil isWhole.1
      have other : ¬ ((first :: others) ++ (point ++ power)).all Char.isDigit := by
        intro digits
        obtain ⟨mark, rest, behind⟩ := List.exists_cons_of_ne_nil more
        have outside := isFraction.outside isExponent mark (by rw [behind]; rfl)
        rw [behind] at digits
        rw [List.all_eq_true.mp digits mark (List.mem_append_right _ List.mem_cons_self)] at outside
        cases outside
      rw [Ordinal.integer?, List.cons_append, isSign.splitSign (isWhole.2 first List.mem_cons_self),
        if_neg (fun digits => other digits.2)]

/-- A decimal is cut to the position that it names, if this is one. -/
theorem Spells.position
    (spells : Spells (text.filter fun character => !isBlank character) exact taken) :
    Ordinal.ofText? text = (some taken.truncated).filter Ordinal.inRange := by
  rw [Ordinal.ofText?, spells.integer, spells.ofText]
  rfl

/-! ### Exponents that do not count with their value -/

theorem digitValue_lt {digit : Char} (isDigit : digit.isDigit = true) :
    Text.digitValue digit < 10 := by
  have range : 48 ≤ digit.toNat ∧ digit.toNat ≤ 57 := Char.isDigit_iff_toNat.mp isDigit
  rw [Text.digitValue, show '0'.toNat = 48 from rfl]
  omega

theorem magnitude_lt {digits : Text} (inside : ∀ digit ∈ digits, digit.isDigit = true) :
    magnitude digits < 10 ^ digits.length := by
  have small : ∀ value ∈ digits.reverse.map Text.digitValue, value < 10 := by
    intro value member
    obtain ⟨digit, among, rfl⟩ := List.mem_map.mp member
    exact digitValue_lt (inside digit (List.mem_reverse.mp among))
  have bound := Nat.ofDigits_lt_base_pow_length (by decide) small
  rwa [List.length_map, List.length_reverse] at bound

theorem FractionText.extent (isFraction : FractionText point fraction) :
    fraction.length ≤ point.length ∧ ∀ digit ∈ fraction, digit.isDigit = true := by
  cases isFraction with
  | absent => exact ⟨Nat.le_refl _, List.forall_mem_nil _⟩
  | present isDigits => exact ⟨Nat.le_succ _, isDigits.2⟩

/-- In a text of moderate length an exponent counts with its value, or the decimal is large or small
in either case. -/
theorem Spells.taken_cases (spells : Spells text exact taken) (short : text.length ≤ 65000) :
    taken = exact ∨ (2 ^ 64 ≤ |exact.value| ∧ 2 ^ 64 ≤ |taken.value|) ∨
      (|exact.value| ≤ 1 / 2 ∧ |taken.value| ≤ 1 / 2) := by
  cases spells with
  | @decimal sign whole point fraction power negative exponent counted isSign isWhole isFraction
      isExponent more =>
      obtain ⟨shorter, inside⟩ := isFraction.extent
      have few := magnitude_lt (List.forall_mem_append.mpr ⟨isWhole.2, inside⟩)
      simp only [List.length_append] at short few
      cases isExponent with
      | absent => exact .inl rfl
      | @present letter sign digits negative _ isSign isDigits =>
          rcases exponentSize_cases digits with same | ⟨large, exactLarge⟩
          · rw [same]
            exact .inl rfl
          right
          rcases Nat.eq_zero_or_pos (magnitude (whole ++ fraction)) with none | some
          · exact .inr ⟨small_of_zero none, small_of_zero none⟩
          cases negative with
          | false =>
              left
              rw [signed, signed, if_neg Bool.false_ne_true, if_neg Bool.false_ne_true]
              constructor
              · exact large_of_exponent some (by dsimp only; omega)
              · exact large_of_exponent some (by dsimp only; omega)
          | true =>
              right
              rw [signed, signed, if_pos rfl, if_pos rfl]
              constructor
              · exact small_of_exponent few (by dsimp only; omega)
              · exact small_of_exponent few (by dsimp only; omega)

end AnnotatedSql.Decimal
