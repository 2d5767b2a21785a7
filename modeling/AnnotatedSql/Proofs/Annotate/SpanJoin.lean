/-
This file shows that joining two spans gives the smallest span around both, and that the text under
the join has the texts under both spans at their places.
-/

import AnnotatedSql.Proofs.Annotate.Reference
import Mathlib.Data.Nat.Basic
import Mathlib.Order.MinMax

namespace AnnotatedSql

/-! ### Joins -/

namespace Span

theorem join_comm (first second : Span) : first.join second = second.join first := by
  rw [join, join, Nat.min_comm, Nat.max_comm]

theorem join_assoc (first second third : Span) :
    (first.join second).join third = first.join (second.join third) := by
  simp only [join, Nat.min_assoc, Nat.max_assoc]

theorem join_self (span : Span) : span.join span = span := by
  rw [join, Nat.min_self, Nat.max_self]

/-- A span lies around the join of two spans exactly if it lies around both of them. -/
theorem join_within_iff {first second outer : Span} :
    (first.join second).Within outer ↔ first.Within outer ∧ second.Within outer := by
  simp only [Within, join, Nat.le_min, Nat.max_le]
  exact and_and_and_comm

theorem within_self (span : Span) : span.Within span := ⟨Nat.le_refl _, Nat.le_refl _⟩

/-- The span is the smallest one around both others. -/
structure Encloses (hull first second : Span) : Prop where
  left : first.Within hull
  right : second.Within hull
  least : ∀ outer, first.Within outer → second.Within outer → hull.Within outer

theorem join_encloses (first second : Span) : (first.join second).Encloses first second := by
  obtain ⟨left, right⟩ := join_within_iff.mp (first.join second).within_self
  exact ⟨left, right, fun outer one two => join_within_iff.mpr ⟨one, two⟩⟩

end Span

/-! ### Texts under spans -/

variable {source : Text} {first second span : Span}

/-- The text has the part behind so many bytes. -/
def Text.HasAt (text : Text) (offset : Nat) (part : Text) : Prop :=
  ∃ before after, text = before ++ part ++ after ∧ before.byteLength = offset

theorem Span.Fits.ends (fits : span.Fits source) :
    span.stop < source.byteLength ∧ source.Boundary span.start ∧
      source.Boundary (span.stop + 1) := by
  obtain ⟨before, middle, after, rfl, positive, rfl⟩ := fits.parts
  have stop : before.byteLength + middle.byteLength - 1 + 1 = (before ++ middle).byteLength := by
    rw [Text.byteLength_append]
    omega
  refine ⟨?_, ⟨before, middle ++ after, List.append_assoc .., rfl⟩, ⟨_, after, rfl, stop⟩⟩
  simp only [Span.ofRange, Text.byteLength_append]
  omega

/-- A span has a text exactly if it lies inside the source and splits no character at its ends. -/
theorem Span.text_isSome_iff (extent : span.start ≤ span.stop) :
    (span.text? source).isSome ↔
      span.stop < source.byteLength ∧ source.Boundary span.start ∧
        source.Boundary (span.stop + 1) := by
  constructor
  · exact fun found => Span.Fits.ends ⟨extent, found⟩
  · rintro ⟨_, starts, stops⟩
    exact (Span.fits_of_boundaries extent starts stops).2

/-- The ends of a join are ends of the spans that are joined, though not always of the same one. -/
theorem Span.Fits.join (one : first.Fits source) (two : second.Fits source) :
    (first.join second).Fits source := by
  obtain ⟨_, startsFirst, stopsFirst⟩ := one.ends
  obtain ⟨_, startsSecond, stopsSecond⟩ := two.ends
  apply Span.fits_of_boundaries
  · exact Nat.le_trans (Nat.min_le_left _ _) (Nat.le_trans one.1 (Nat.le_max_left _ _))
  · rw [Span.join]
    rcases min_choice first.start second.start with start | start <;> rw [start] <;> assumption
  · rw [Span.join]
    rcases max_choice first.stop second.stop with stop | stop <;> rw [stop] <;> assumption

/-- A text under a span has at its place what stands under a span inside. -/
theorem Span.Fits.hasAt {inner outer : Span} {innerText outerText : Text}
    (innerFits : inner.Fits source) (outerFits : outer.Fits source) (within : inner.Within outer)
    (innerFound : inner.text? source = some innerText)
    (outerFound : outer.text? source = some outerText) :
    outerText.HasAt (inner.start - outer.start) innerText := by
  obtain ⟨ahead, middle, behind, whole, positive, rfl⟩ := innerFits.parts
  obtain ⟨before, text, after, sameWhole, _, rfl⟩ := outerFits.parts
  rw [whole, Span.text_of_parts _ _ _ positive, Option.some.injEq] at innerFound
  rw [sameWhole, Span.text_of_parts _ _ _ (by assumption), Option.some.injEq] at outerFound
  subst innerFound outerFound
  obtain ⟨starts, stops⟩ := within
  rw [whole, List.append_assoc, List.append_assoc] at sameWhole
  obtain ⟨front, rfl, rest⟩ := Text.split_later sameWhole.symm starts
  rw [← List.append_assoc] at rest
  obtain ⟨back, rfl, _⟩ := Text.split_later rest.symm (by
    simp only [Span.ofRange, Text.byteLength_append] at stops ⊢
    omega)
  refine ⟨front, back, rfl, ?_⟩
  simp only [Span.ofRange, Text.byteLength_append]
  omega

/-- Joining spans is commutative, associative and idempotent and gives the smallest span around both.
A span has a text exactly if it lies inside the source and between characters; with two spans their
join has one too, and it has the texts under both of them where they stand. -/
theorem span_join_hull (source : Text) (first second third : Span)
    (extent : first.start ≤ first.stop) (extentSecond : second.start ≤ second.stop) :
    first.join second = second.join first ∧
      (first.join second).join third = first.join (second.join third) ∧
      first.join first = first ∧
      (first.join second).Encloses first second ∧
      ((first.text? source).isSome ↔
        first.stop < source.byteLength ∧ source.Boundary first.start ∧
          source.Boundary (first.stop + 1)) ∧
      ∀ firstText secondText, first.text? source = some firstText →
        second.text? source = some secondText →
        ∃ text, (first.join second).text? source = some text ∧
          text.HasAt (first.start - (first.join second).start) firstText ∧
          text.HasAt (second.start - (first.join second).start) secondText := by
  have encloses := first.join_encloses second
  refine ⟨first.join_comm second, first.join_assoc second third, first.join_self, encloses,
    Span.text_isSome_iff extent, ?_⟩
  intro firstText secondText firstFound secondFound
  have firstFits : first.Fits source := ⟨extent, firstFound ▸ rfl⟩
  have secondFits : second.Fits source := ⟨extentSecond, secondFound ▸ rfl⟩
  have fits := firstFits.join secondFits
  obtain ⟨text, found⟩ := Option.isSome_iff_exists.mp fits.2
  exact ⟨text, found, firstFits.hasAt fits encloses.left firstFound found,
    secondFits.hasAt fits encloses.right secondFound found⟩

/-- The join starts with the second span and stops with the first one, among characters of two and
three bytes. -/
theorem span_join_hull_multibyte :
    let source : Text := "aé→b".toList
    (Span.mk 3 5).join ⟨1, 2⟩ = ⟨1, 5⟩ ∧
      ∃ text, (Span.mk 1 5).text? source = some text ∧ text.HasAt 2 ['→'] ∧ text.HasAt 0 ['é'] := by
  intro source
  obtain ⟨_, _, _, _, _, both⟩ :=
    span_join_hull source ⟨3, 5⟩ ⟨1, 2⟩ ⟨0, 0⟩ (by decide) (by decide)
  exact ⟨rfl, both ['→'] ['é'] (by decide) (by decide)⟩

end AnnotatedSql
