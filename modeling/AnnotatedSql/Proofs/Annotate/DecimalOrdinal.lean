/-
This file shows which position an order item names whose number has a fraction or an exponent: the
number is rounded to 53 significant bits before what lies behind the point is cut off.
-/

import AnnotatedSql.Proofs.Decimal.Spelling
import AnnotatedSql.Proofs.Token.Numeral

namespace AnnotatedSql

open Decimal (RoundsTo HasBits Spells truncate)

variable {source text : Text} {item : Grammar.OrderItem} {span : Span} {position : Int}
  {exact taken : Decimal} {rounded : ℚ}

/-- An item comes to the same with two positions only if neither of them fits. -/
theorem ordinalOutcome_eq_iff {other : Int} :
    ordinalOutcome source item span position = ordinalOutcome source item span other ↔
      position = other ∨ (¬ Ordinal.Fits position ∧ ¬ Ordinal.Fits other) := by
  constructor
  · intro same
    by_cases fits : Ordinal.Fits position
    · rw [ordinalOutcome_of_fits fits] at same
      by_cases otherFits : Ordinal.Fits other
      · rw [ordinalOutcome_of_fits otherFits] at same
        exact .inl (OrderItem.index.inj (Except.ok.inj same)).2.1
      · rw [ordinalOutcome_of_not_fits otherFits] at same
        cases same
    · rw [ordinalOutcome_of_not_fits fits] at same
      by_cases otherFits : Ordinal.Fits other
      · rw [ordinalOutcome_of_fits otherFits] at same
        cases same
      · exact .inr ⟨fits, otherFits⟩
  · rintro (rfl | ⟨none, otherNone⟩)
    · rfl
    · rw [ordinalOutcome_of_not_fits none, ordinalOutcome_of_not_fits otherNone]

/-- What a decimal is taken for, rounded and cut, is the position that its item names. -/
theorem orderItem_of_spells (progress : Progress) (column : item.column = none)
    (number : item.number = some span)
    (spells : Spells ((span.text source).filter fun character => !isBlank character) exact taken)
    (rounds : RoundsTo taken.value rounded) :
    Annotate.orderItem item source progress =
      (ordinalOutcome source item span (truncate rounded), progress) := by
  obtain ⟨found, cut, only⟩ := taken.truncated_spec
  rw [(only rounded).mp rounds, ← cut]
  exact orderItem_of_position progress column number spells.position

/-- In a text of moderate length the item comes to the same whether or not an exponent counts with
its value. -/
theorem ordinalOutcome_of_spells (spells : Spells text exact taken) (short : text.length ≤ 65000)
    (own : RoundsTo taken.value rounded) {other : ℚ} (rounds : RoundsTo exact.value other) :
    ordinalOutcome source item span (truncate rounded) =
      ordinalOutcome source item span (truncate other) := by
  rw [ordinalOutcome_eq_iff]
  rcases spells.taken_cases short with rfl | ⟨exactLarge, large⟩ | ⟨exactSmall, small⟩
  · obtain ⟨found, _, only⟩ := taken.truncated_spec
    rw [(only rounded).mp own, (only other).mp rounds]
    exact .inl rfl
  · exact .inr ⟨Decimal.not_fits_of_large own large, Decimal.not_fits_of_large rounds exactLarge⟩
  · rw [Decimal.truncate_of_small own small, Decimal.truncate_of_small rounds exactSmall]
    exact .inl rfl

/-- The number of an order item without a column has a fraction or an exponent, blanks apart. Then the
item names the whole part of this number after it is rounded to 53 bits, or is refused if that does
not fit. This is what the number itself names exactly if rounding does not change its whole part or
neither of them fits. Unless the text is very long its exponent counts with its value; then rounding
changes nothing where the number has 53 bits, or its digits have and it is no multiple of ten of
them. -/
theorem decimal_ordinal_rounded (source : Text) (item : Grammar.OrderItem) (span : Span)
    (exact taken : Decimal) (progress : Progress) (column : item.column = none)
    (number : item.number = some span)
    (spells : Spells ((span.text source).filter fun character => !isBlank character) exact taken) :
    (∃ rounded, (∀ other, RoundsTo taken.value other ↔ other = rounded) ∧
      Annotate.orderItem item source progress =
        (ordinalOutcome source item span (truncate rounded), progress) ∧
      (Annotate.orderItem item source progress =
          (ordinalOutcome source item span (truncate exact.value), progress) ↔
        truncate rounded = truncate exact.value ∨
          (¬ Ordinal.Fits (truncate rounded) ∧ ¬ Ordinal.Fits (truncate exact.value)))) ∧
    ((span.text source).length ≤ 65000 →
      (∀ rounded, RoundsTo exact.value rounded → Annotate.orderItem item source progress =
        (ordinalOutcome source item span (truncate rounded), progress)) ∧
      (HasBits 53 exact.value ∨ (exact.digits < 2 ^ 53 ∧ exact.exponent ≤ 0) →
        Annotate.orderItem item source progress =
          (ordinalOutcome source item span (truncate exact.value), progress))) := by
  obtain ⟨rounded, _, only⟩ := taken.truncated_spec
  have own := (only rounded).mpr rfl
  rw [orderItem_of_spells progress column number spells own]
  refine ⟨⟨rounded, only, rfl, ?_⟩, fun short => ?_⟩
  · rw [Prod.mk.injEq, and_iff_left rfl, ordinalOutcome_eq_iff]
  have alike (other : ℚ) (rounds : RoundsTo exact.value other) :
      ordinalOutcome source item span (truncate rounded) =
        ordinalOutcome source item span (truncate other) :=
    ordinalOutcome_of_spells spells ((List.length_filter_le _ _).trans short) own rounds
  refine ⟨fun other rounds => by rw [alike other rounds], ?_⟩
  rintro (bits | ⟨few, noPower⟩)
  · rw [alike _ (Decimal.roundsTo_self bits)]
  · obtain ⟨other, _, only⟩ := exact.truncated_spec
    have rounds := (only other).mpr rfl
    rw [alike other rounds, Decimal.truncate_rounded_eq few noPower rounds]

/-- A decimal just below three is rounded up to it. -/
theorem decimal_ordinal_rounded_up :
    let source : Text := "SELECT a FROM t ORDER BY 2.99999999999999999".toList
    let item : Grammar.OrderItem := ⟨⟨25, 43⟩, none, some ⟨25, 43⟩, none, none, none⟩
    let exact : Decimal := ⟨false, 299999999999999999, -17⟩
    Spells (((Span.mk 25 43).text source).filter fun character => !isBlank character) exact exact ∧
      truncate exact.value = 2 ∧ (∃ rounded, RoundsTo exact.value rounded ∧ truncate rounded = 3) ∧
        Annotate.orderItem item source Progress.initial =
          (.ok (.index ⟨25, 43⟩ 3 .ascending), Progress.initial) := by
  intro source item exact
  have whole : Ordinal.IsDigits ['2'] := ⟨List.cons_ne_nil _ _, List.all_eq_true.mp (by decide)⟩
  have fraction : Ordinal.IsDigits "99999999999999999".toList :=
    ⟨List.cons_ne_nil _ _, List.all_eq_true.mp (by decide)⟩
  have digits : Ordinal.magnitude (['2'] ++ "99999999999999999".toList) = 299999999999999999 := by
    decide
  have blankless : ((Span.mk 25 43).text source).filter (fun character => !isBlank character) =
      "2.99999999999999999".toList := by decide
  have spells : Spells "2.99999999999999999".toList exact exact := by
    have decimal := Spells.decimal .absent whole (.present fraction) .absent (List.cons_ne_nil _ _)
    rw [digits] at decimal
    exact decimal
  rw [← blankless] at spells
  have cut : truncate exact.value = 2 := by
    change truncate (299999999999999999 * 10 ^ (-17 : ℤ)) = 2
    rw [Decimal.truncate_of_nonneg (by positivity), Int.floor_eq_iff]
    norm_num
  have reads : Ordinal.ofText? ((Span.mk 25 43).text source) = (some 3).filter Ordinal.inRange := by
    decide +kernel
  have run : Annotate.orderItem item source Progress.initial =
      (.ok (.index ⟨25, 43⟩ 3 .ascending), Progress.initial) :=
    orderItem_of_position Progress.initial rfl rfl reads
  obtain ⟨⟨rounded, only, rounds, _⟩, _⟩ :=
    decimal_ordinal_rounded source item ⟨25, 43⟩ exact exact Progress.initial rfl rfl spells
  refine ⟨spells, cut, ⟨rounded, (only rounded).mpr rfl, ?_⟩, run⟩
  rw [run, ordinalOutcome] at rounds
  split at rounds
  · exact (OrderItem.index.inj (Except.ok.inj (Prod.mk.inj rounds).1)).2.1.symm
  · cases rounds

/-! ### Number tokens -/

/-- An order item without a column whose number is a number token names the number that its digits
stand for, if the token has nothing but digits. Any other number token spells a decimal, and the
item names the whole part of this decimal after it is rounded to 53 bits. -/
theorem orderItem_of_number_token {token : Token} (member : token ∈ tokenize source)
    (kind : token.kind = .number) (column : item.column = none)
    (number : item.number = some token.span) (progress : Progress) :
    (Ordinal.IsDigits token.text → Annotate.orderItem item source progress =
      (ordinalOutcome source item token.span (Ordinal.magnitude token.text), progress)) ∧
    (¬ Ordinal.IsDigits token.text → ∃ exact taken, Spells token.text exact taken ∧
      (∃ rounded, RoundsTo taken.value rounded ∧ Annotate.orderItem item source progress =
        (ordinalOutcome source item token.span (truncate rounded), progress)) ∧
      (token.text.length ≤ 65000 → ∃ rounded, RoundsTo exact.value rounded ∧
        Annotate.orderItem item source progress =
          (ordinalOutcome source item token.span (truncate rounded), progress))) := by
  have isClass := tokenize_number member kind
  have stands := tokenize_stands source token member (by rw [kind]; nofun)
  have blankless : (token.span.text source).filter (fun character => !isBlank character) =
      token.text := by
    rw [stands.span_text, List.filter_eq_self]
    intro character within
    rw [isClass.number_unspaced.blank character within, Bool.not_false]
  constructor
  · intro digits
    apply orderItem_of_position progress column number
    apply Ordinal.Numeral.position
    rw [blankless]
    exact .unsigned digits
  · intro other
    obtain ⟨exact, taken, spells⟩ := Decimal.exists_spells isClass other
    obtain ⟨rounded, own⟩ := Decimal.exists_roundsTo taken
    have run := orderItem_of_spells progress column number (blankless ▸ spells) own
    refine ⟨exact, taken, spells, ⟨rounded, own, run⟩, fun short => ?_⟩
    obtain ⟨other, rounds⟩ := Decimal.exists_roundsTo exact
    rw [run]
    exact ⟨other, rounds, by rw [ordinalOutcome_of_spells spells short own rounds]⟩

end AnnotatedSql
