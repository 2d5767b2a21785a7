/-
This file shows that an order item whose number is an integer names exactly that position, or is
refused if the position does not fit into 64 bits.
-/

import AnnotatedSql.Proofs.Annotate.Walk
import Mathlib.Data.List.Induction
import Mathlib.Data.Nat.Digits.Defs

namespace AnnotatedSql

namespace Ordinal

/-- The number that decimal digits stand for; the last digit is that of the ones. -/
def magnitude (digits : Text) : Nat := Nat.ofDigits 10 (digits.reverse.map Text.digitValue)

/-- At least one decimal digit, and nothing else. -/
def IsDigits (digits : Text) : Prop := digits ≠ [] ∧ ∀ digit ∈ digits, digit.isDigit

/-- The text is an integer with at most one sign. -/
inductive Numeral : Text → Int → Prop
  | unsigned {digits : Text} : IsDigits digits → Numeral digits (magnitude digits)
  | positive {digits : Text} : IsDigits digits → Numeral ('+' :: digits) (magnitude digits)
  | negative {digits : Text} : IsDigits digits → Numeral ('-' :: digits) (-(magnitude digits : Int))

theorem digitsValue_eq (digits : Text) : Text.digitsValue digits = magnitude digits := by
  induction digits using List.reverseRecOn with
  | nil => rfl
  | append_singleton digits last ih =>
      rw [Text.digitsValue_append, ih, magnitude, magnitude, List.reverse_append,
        List.reverse_singleton, List.singleton_append, List.map_cons, Nat.ofDigits_cons]
      omega

/-- A digit is no sign. -/
theorem splitSign_of_isDigits {digits : Text} (isDigits : IsDigits digits) :
    Text.splitSign digits = ([], digits) := by
  obtain ⟨_, each⟩ := isDigits
  unfold Text.splitSign
  split
  case h_1 => exact absurd (each '+' List.mem_cons_self) (by decide)
  case h_2 => exact absurd (each '-' List.mem_cons_self) (by decide)
  case h_3 => rfl

theorem integer_of_numeral {text : Text} {position : Int} (numeral : Numeral text position) :
    integer? text = some position := by
  cases numeral with
  | unsigned isDigits =>
      have all := List.all_eq_true.mpr isDigits.2
      simp [integer?, splitSign_of_isDigits isDigits, isDigits.1, all, digitsValue_eq]
  | positive isDigits | negative isDigits =>
      have all := List.all_eq_true.mpr isDigits.2
      simp [integer?, Text.splitSign, isDigits.1, all, digitsValue_eq]

/-- A position fits into 64 bits. -/
def Fits (position : Int) : Prop := -2 ^ 63 ≤ position ∧ position ≤ 2 ^ 63 - 1

theorem inRange_iff (position : Int) : inRange position ↔ Fits position := by
  rw [inRange, Bool.and_eq_true, decide_eq_true_iff, decide_eq_true_iff, Fits]
  norm_num

/-- An integer is never read as a decimal that is rounded. -/
theorem Numeral.position {text : Text} {position : Int}
    (numeral : Numeral (text.filter fun character => !isBlank character) position) :
    ofText? text = (some position).filter inRange := by
  rw [ofText?, integer_of_numeral numeral]
  rfl

end Ordinal

variable {source : Text} {item : Grammar.OrderItem} {span : Span} {position : Int}
  {progress : Progress}

/-- The text under the span alone decides about the position that it names. -/
theorem Annotate.position_run (span : Span) :
    Annotate.position span source progress =
      (match Ordinal.ofText? (span.text source) with
        | some position => .ok position
        | none => .error (.invalidOrdinal (span.text source) span), progress) := by
  change (match Ordinal.ofText? (span.text source) with
    | some position => (pure position : Annotator Int)
    | none => throw (AnnotationError.invalidOrdinal (span.text source) span)) source progress = _
  cases Ordinal.ofText? (span.text source) <;> rfl

/-- What an order item comes to whose number stands under the span and is the given integer. -/
def ordinalOutcome (source : Text) (item : Grammar.OrderItem) (span : Span) (position : Int) :
    Except AnnotationError OrderItem :=
  if -2 ^ 63 ≤ position ∧ position ≤ 2 ^ 63 - 1 then
    .ok (.index span position (Annotate.directionOf item.descending))
  else
    .error (.invalidOrdinal (span.text source) span)

theorem ordinalOutcome_of_fits (fits : Ordinal.Fits position) :
    ordinalOutcome source item span position =
      .ok (.index span position (Annotate.directionOf item.descending)) :=
  if_pos fits

theorem ordinalOutcome_of_not_fits (other : ¬ Ordinal.Fits position) :
    ordinalOutcome source item span position = .error (.invalidOrdinal (span.text source) span) :=
  if_neg other

/-- The position that is read decides about an item without a column. -/
theorem orderItem_of_position (progress : Progress) (column : item.column = none)
    (number : item.number = some span)
    (reads : Ordinal.ofText? (span.text source) = (some position).filter Ordinal.inRange) :
    Annotate.orderItem item source progress =
      (ordinalOutcome source item span position, progress) := by
  obtain ⟨_, _, _, expr, ascending, descending⟩ := item
  subst column number
  rw [Annotate.orderItem, Annotator.bind_run, Annotate.position_run, reads, Option.filter_some]
  by_cases fits : Ordinal.Fits position
  · rw [ordinalOutcome_of_fits fits, if_pos ((Ordinal.inRange_iff position).mpr fits)]
    rfl
  · rw [ordinalOutcome_of_not_fits fits,
      if_neg (fun inside => fits ((Ordinal.inRange_iff position).mp inside))]

/-- An order item without a column whose number is an integer, blanks apart, names exactly that
position, or is refused with the text of the number as it stands in the source. -/
theorem integer_ordinal_exact (source : Text) (item : Grammar.OrderItem) (span : Span)
    (position : Int) (progress : Progress) (column : item.column = none)
    (number : item.number = some span)
    (numeral : Ordinal.Numeral ((span.text source).filter fun character => !isBlank character)
      position) :
    Annotate.orderItem item source progress =
      (ordinalOutcome source item span position, progress) :=
  orderItem_of_position progress column number numeral.position

/-- The least position, with a blank behind its sign and a zero in front of its digits. -/
theorem integer_ordinal_exact_least :
    let source : Text := "- 09223372036854775808 DESC".toList
    let item : Grammar.OrderItem := ⟨⟨0, 26⟩, none, some ⟨0, 21⟩, none, none, some ⟨23, 26⟩⟩
    Ordinal.Numeral (((Span.mk 0 21).text source).filter fun character => !isBlank character)
        (-9223372036854775808) ∧
      ∀ progress, Annotate.orderItem item source progress =
        (.ok (.index ⟨0, 21⟩ (-9223372036854775808) .descending), progress) := by
  intro source item
  have blankless : ((Span.mk 0 21).text source).filter (fun character => !isBlank character) =
      '-' :: "09223372036854775808".toList := by decide
  have digits : Ordinal.IsDigits "09223372036854775808".toList :=
    ⟨List.cons_ne_nil _ _, List.all_eq_true.mp (by decide)⟩
  have value : Ordinal.magnitude "09223372036854775808".toList = 9223372036854775808 := by decide
  have numeral := Ordinal.Numeral.negative digits
  rw [value, ← blankless] at numeral
  constructor
  · exact numeral
  · intro progress
    exact integer_ordinal_exact source item ⟨0, 21⟩ _ progress rfl rfl numeral

/-- An item that has a column beside its number is that column. -/
theorem column_before_number :
    let source : Text := "SELECT a FROM t ORDER BY a, 2, b + ? DESC".toList
    let name : Grammar.QualifiedName := ⟨⟨25, 25⟩, none, ⟨⟨25, 25⟩, none⟩⟩
    let item : Grammar.OrderItem := ⟨⟨25, 40⟩, some name, some ⟨28, 28⟩, none, none, none⟩
    item.number = some ⟨28, 28⟩ ∧
      Ordinal.Numeral (((Span.mk 28 28).text source).filter fun character => !isBlank character)
        2 ∧
      ∀ progress, Annotate.orderItem item source progress ≠
        (ordinalOutcome source item ⟨28, 28⟩ 2, progress) := by
  intro source name item
  have digits : Ordinal.IsDigits ['2'] :=
    ⟨List.cons_ne_nil _ _, List.all_eq_true.mp (by decide)⟩
  refine ⟨rfl, Ordinal.Numeral.unsigned digits, ?_⟩
  intro progress same
  have column : Annotate.orderItem item source progress =
      (.ok (.column ⟨⟨25, 25⟩, ⟨['a'], .bare⟩, none⟩ .ascending), progress) := rfl
  rw [column] at same
  cases (Prod.mk.inj same).1

end AnnotatedSql
