/-
This file holds byte ranges of a source text, both ends included.
-/

import AnnotatedSql.Text

namespace AnnotatedSql

/-- The bytes from `start` to `stop` of a source text; both belong to the range. -/
structure Span where
  start : Nat
  stop : Nat
deriving DecidableEq, Repr

namespace Span

/-- The span of the bytes from `start` up to but not including `finish`. -/
def ofRange (start finish : Nat) : Span := ⟨start, finish - 1⟩

/-- The number of bytes in the span. -/
def length (span : Span) : Nat := span.stop - span.start + 1

/-- The smallest span that covers both. -/
def join (first second : Span) : Span :=
  ⟨min first.start second.start, max first.stop second.stop⟩

/-- The source text under the span, if the span lies inside the source and splits no character. -/
def text? (span : Span) (source : Text) : Option Text :=
  if span.start ≤ span.stop + 1 then
    (source.dropBytes? span.start).bind (·.takeBytes? (span.stop + 1 - span.start))
  else
    none

/-- The source text under a span that comes from this source. -/
def text (span : Span) (source : Text) : Text := (span.text? source).getD []

/-- Written as `start..=stop`. -/
def display (span : Span) : String := toString span.start ++ "..=" ++ toString span.stop

/-- A span laid over the middle of a text gives that middle. -/
theorem text_of_parts (before middle after : Text) (nonempty : 0 < middle.byteLength) :
    (Span.ofRange before.byteLength (before.byteLength + middle.byteLength)).text?
      (before ++ middle ++ after) = some middle := by
  have ends : before.byteLength + middle.byteLength - 1 + 1
      = before.byteLength + middle.byteLength := by omega
  simp [text?, ofRange, ends]

end Span

end AnnotatedSql
