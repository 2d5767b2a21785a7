/-
This file says what it means that an annotation fails at the first number that names no position,
and shows which steps always succeed.
-/

import AnnotatedSql.Proofs.Annotate.Numbering
import AnnotatedSql.Proofs.Grammar.PartPlace

namespace AnnotatedSql

open Grammar (Part)

variable {source : Text} {parts further : List Part}

/-! ### Numbers that name no position -/

/-- The numbers of order items that name no position, in the order of the parts. -/
def rejected (source : Text) (parts : List Part) : List Span :=
  (Grammar.numbers parts).filter fun span => (Ordinal.ofText? (span.text source)).isNone

section
variable {span : Span}

@[simp] theorem rejected_nil : rejected source [] = [] := rfl

@[simp] theorem rejected_append :
    rejected source (parts ++ further) = rejected source parts ++ rejected source further := by
  rw [rejected, Grammar.numbers_append, List.filter_append, rejected, rejected]

@[simp] theorem rejected_span :
    rejected source (.span span :: parts) = rejected source parts := rfl

@[simp] theorem rejected_select {node : Grammar.Select} :
    rejected source (.select node :: parts) = rejected source parts := rfl

@[simp] theorem rejected_item {item : Grammar.OrderItem} :
    rejected source (.item item :: parts) =
      (item.number.toList.filter fun span => (Ordinal.ofText? (span.text source)).isNone) ++
        rejected source parts := by
  rw [rejected, Grammar.numbers_item, List.filter_append, rejected]

theorem rejected_of_numbers (none : Grammar.numbers parts = []) : rejected source parts = [] := by
  rw [rejected, none, List.filter_nil]

@[simp] theorem rejected_ofSpan {found : Option Span} :
    rejected source (Part.ofSpan? found) = [] :=
  rejected_of_numbers Grammar.numbers_ofSpan

end

theorem rejected_subset (fewer : parts ⊆ further) :
    rejected source parts ⊆ rejected source further :=
  List.filter_subset _ (List.filterMap_subset _ fewer)

/-! ### Annotations that fail at a rejected number -/

/-- The annotation fails at the first of the spans, and succeeds if there are none. -/
def Refuses {Value : Type} (source : Text) : List Span → Annotator Value → Prop
  | [], annotator => ∀ progress, ∃ value after, annotator source progress = (.ok value, after)
  | span :: _, annotator => ∀ progress, ∃ after,
      annotator source progress = (.error (.invalidOrdinal (span.text source) span), after)

section
variable {Value Result : Type} {annotator : Annotator Value} {next : Value → Annotator Result}
  {spans others : List Span} {span : Span}

theorem Refuses.bind (first : Refuses source spans annotator)
    (rest : ∀ value, Refuses source others (next value)) :
    Refuses source (spans ++ others) (annotator >>= next) := by
  cases spans with
  | nil =>
      have runs (progress : Progress) : ∃ value after,
          (annotator >>= next) source progress = next value source after := by
        obtain ⟨value, after, run⟩ := first progress
        refine ⟨value, after, ?_⟩
        rw [Annotator.bind_run, run]
      cases others with
      | nil =>
          intro progress
          obtain ⟨value, after, run⟩ := runs progress
          rw [run]
          exact rest value after
      | cons span others =>
          intro progress
          obtain ⟨value, after, run⟩ := runs progress
          rw [run]
          exact rest value after
  | cons span spans =>
      intro progress
      obtain ⟨after, run⟩ := first progress
      exact ⟨after, by rw [Annotator.bind_run, run]⟩

/-- Steps that always succeed. -/
abbrev Succeeds (source : Text) (annotator : Annotator Value) : Prop := Refuses source [] annotator

/-- The first step always succeeds. -/
theorem Refuses.after (first : Succeeds source annotator)
    (rest : ∀ value, Refuses source spans (next value)) :
    Refuses source spans (annotator >>= next) :=
  first.bind rest

/-- The later steps always succeed. -/
theorem Refuses.before (first : Refuses source spans annotator)
    (rest : ∀ value, Succeeds source (next value)) : Refuses source spans (annotator >>= next) := by
  rw [← List.append_nil spans]
  exact first.bind rest

/-- Where all steps succeed, the first one does. -/
theorem Refuses.first (whole : Succeeds source (annotator >>= next)) :
    Succeeds source annotator := by
  intro progress
  obtain ⟨value, after, run⟩ := whole progress
  rw [Annotator.bind_run] at run
  rcases split : annotator source progress with ⟨error | value, middle⟩
  · rw [split] at run
    cases run
  · exact ⟨value, middle, rfl⟩

theorem succeeds_pure {value : Value} : Succeeds source (pure value) :=
  fun progress => ⟨value, progress, rfl⟩

end

namespace Annotate

theorem succeeds_report (event : Event) : Succeeds source (report event) := fun _ => ⟨(), _, rfl⟩

theorem succeeds_read : Succeeds source (read : Annotator Text) :=
  fun progress => ⟨source, progress, rfl⟩

theorem succeeds_textAt (span : Span) : Succeeds source (textAt span) :=
  fun progress => ⟨span.text source, progress, rfl⟩

theorem succeeds_verbatim (span : Span) : Succeeds source (verbatim span) :=
  (succeeds_textAt span).after fun _ => succeeds_pure

theorem succeeds_verbatimSegment (span : Span) : Succeeds source (verbatimSegment span) :=
  (succeeds_verbatim span).after fun _ => succeeds_pure

theorem succeeds_verbatimCall (span : Span) : Succeeds source (verbatimCall span) :=
  (succeeds_textAt span).after fun _ => succeeds_pure

theorem succeeds_marker (span : Span) : Succeeds source (marker span) := fun _ => ⟨_, _, rfl⟩

theorem succeeds_mapM {Item Value : Type} {step : Item → Annotator Value}
    (each : ∀ item, Succeeds source (step item)) (items : List Item) :
    Succeeds source (items.mapM step) := by
  induction items with
  | nil => exact succeeds_pure
  | cons first rest ih =>
      rw [List.mapM_cons]
      exact (each first).after fun _ => ih.after fun _ => succeeds_pure

/-- A literal that a token makes up has one of its slots set. -/
theorem succeeds_literal {node : Grammar.Literal} {tokens : List Token}
    (derived : node.Derives tokens) : Succeeds source (literal node) := by
  cases derived <;> exact (succeeds_textAt _).after fun _ => succeeds_pure

theorem succeeds_name (node : Grammar.Identifier) : Succeeds source (name node) :=
  (succeeds_textAt _).after fun _ => succeeds_pure

theorem succeeds_placedName (node : Grammar.Label) : Succeeds source (placedName node) :=
  (succeeds_name _).after fun _ => succeeds_pure

theorem succeeds_placedName? (node : Option Grammar.Label) :
    Succeeds source (placedName? node) := by
  cases node with
  | none => exact succeeds_pure
  | some node => exact (succeeds_placedName node).after fun _ => succeeds_pure

theorem succeeds_column (node : Grammar.QualifiedName) : Succeeds source (column node) :=
  (succeeds_name _).after fun _ => (succeeds_placedName? _).after fun _ => succeeds_pure

theorem succeeds_table (node : Grammar.QualifiedName) : Succeeds source (table node) :=
  (succeeds_name _).after fun _ => (succeeds_placedName? _).after fun _ => succeeds_pure

theorem succeeds_tables? (node : Option Grammar.NameList) : Succeeds source (tables? node) := by
  cases node with
  | none => exact succeeds_pure
  | some node => exact succeeds_mapM succeeds_table node.names

theorem succeeds_leafSegment (span : Span) (leaf : Leaf) :
    Succeeds source (leafSegment span leaf) := by
  unfold leafSegment
  split
  · exact succeeds_pure
  · exact succeeds_pure
  · split
    · exact succeeds_pure
    · exact succeeds_verbatimSegment span

theorem succeeds_keptPredicate (span : Span) : Succeeds source (keptPredicate span) :=
  (succeeds_report _).after fun _ => succeeds_verbatimSegment span

theorem succeeds_comparison (span operator : Span) (left right : Segment) :
    Succeeds source (comparison span operator left right) := by
  unfold comparison
  split
  · exact (succeeds_report _).after fun _ => succeeds_pure
  · split
    · exact succeeds_pure
    · exact (succeeds_textAt operator).after fun _ => succeeds_read.after fun _ => succeeds_pure

theorem succeeds_test (span : Span) (operand : Segment) (negation : Option Span)
    (comparand : Text → Comparand) : Succeeds source (test span operand negation comparand) := by
  unfold test
  split
  · exact succeeds_read.after fun _ => succeeds_pure
  · exact succeeds_keptPredicate span

theorem succeeds_aggregateUse (node : Grammar.AggregationCall) :
    Succeeds source (aggregateUse node) := by
  refine (succeeds_textAt node.name).after fun name => ?_
  split
  · exact (succeeds_report _).after fun _ => succeeds_verbatimCall node.span
  · refine (succeeds_mapM succeeds_textAt _).after fun _ => ?_
    exact (succeeds_report _).after fun _ => succeeds_pure

/-- What follows may use the text that is found. -/
theorem refuses_textAt {Result : Type} {next : Text → Annotator Result} {span : Span}
    {spans : List Span} (rest : Refuses source spans (next (span.text source))) :
    Refuses source spans (textAt span >>= next) := by
  cases spans <;> exact rest

/-- A number names a position or is refused. -/
theorem refuses_position (span : Span) :
    Refuses source ([span].filter fun span => (Ordinal.ofText? (span.text source)).isNone)
      (position span) := by
  apply refuses_textAt
  rcases found : Ordinal.ofText? (span.text source) with _ | position
  · rw [List.filter_cons_of_pos (by rw [found]; rfl)]
    exact fun progress => ⟨progress, rfl⟩
  · rw [List.filter_cons_of_neg (by rw [found]; exact Bool.false_ne_true)]
    exact succeeds_pure

/-- A connective that stands in the source is recognised. -/
theorem connective_isSome {token : Token} (stands : token.Stands source)
    (connective : Grammar.isConnective token.kind) :
    (Connective.ofText? (token.span.text source)).isSome := by
  have spells := stands.spells
  rw [stands.span_text]
  unfold Grammar.isConnective at connective
  split at connective
  case h_1 word =>
    rw [word] at spells
    have same := List.find?_some spells
    rw [beq_iff_eq] at same
    simp [Connective.ofText?, ← same, Keyword.spelling]
  case h_3 word =>
    rw [word] at spells
    have same := List.find?_some spells
    rw [beq_iff_eq] at same
    simp [Connective.ofText?, ← same, Keyword.spelling]
  case h_2 sign =>
    rw [sign] at spells
    rw [spells.symbol "&&" (by decide)]
    decide
  case h_4 sign =>
    rw [sign] at spells
    rw [spells.symbol "||" (by decide)]
    decide
  case h_5 => exact absurd connective Bool.false_ne_true

end Annotate

end AnnotatedSql
