/-
This file says what holds of the value of an annotation that succeeds.
-/

import AnnotatedSql.Proofs.Annotate.Walk

namespace AnnotatedSql

namespace Annotator

variable {Value Result : Type} {source : Text} {progress : Progress}

/-- If the annotation succeeds, its value and how far it has come are as stated. -/
def Ensures (annotator : Annotator Value) (source : Text) (progress : Progress)
    (holds : Value → Progress → Prop) : Prop :=
  ∀ value after, annotator source progress = (.ok value, after) → holds value after

theorem Ensures.mono {annotator : Annotator Value} {holds weaker : Value → Progress → Prop}
    (ensured : annotator.Ensures source progress holds)
    (weaken : ∀ value after, holds value after → weaker value after) :
    annotator.Ensures source progress weaker :=
  fun value after run => weaken value after (ensured value after run)

/-- What holds of any value holds of the one that is found. -/
theorem ensures_of_forall {annotator : Annotator Value} {holds : Value → Progress → Prop}
    (always : ∀ value after, holds value after) : annotator.Ensures source progress holds :=
  fun value after _ => always value after

@[simp] theorem ensures_bind {annotator : Annotator Value} {next : Value → Annotator Result}
    {holds : Result → Progress → Prop} :
    (annotator >>= next).Ensures source progress holds ↔
      annotator.Ensures source progress fun value after =>
        (next value).Ensures source after holds := by
  constructor
  · intro ensured first middle run value after rest
    apply ensured value after
    rw [bind_run, run]
    exact rest
  · intro ensured value after run
    rw [bind_run] at run
    rcases split : annotator source progress with ⟨error | first, middle⟩
    · rw [split] at run
      cases run
    · rw [split] at run
      exact ensured first middle split value after run

/-- Where the value is dropped, only the later steps count. -/
theorem ensures_drop {annotator : Annotator Value} {next : Value → Annotator Result}
    {holds : Result → Progress → Prop}
    (rest : ∀ value after, (next value).Ensures source after holds) :
    (annotator >>= next).Ensures source progress holds := by
  rw [ensures_bind]
  exact ensures_of_forall rest

theorem ensures_of_ok {annotator : Annotator Value} {holds : Value → Progress → Prop} {value : Value}
    {after : Progress} (run : annotator source progress = (.ok value, after)) :
    annotator.Ensures source progress holds ↔ holds value after := by
  constructor
  · exact fun ensured => ensured value after run
  · intro held found later same
    obtain ⟨⟨⟩, rfl⟩ := Prod.mk.inj (run.symm.trans same)
    exact held

section
variable {holds : Value → Progress → Prop}

@[simp] theorem ensures_pure {value : Value} :
    (pure value : Annotator Value).Ensures source progress holds ↔ holds value progress :=
  ensures_of_ok rfl

@[simp] theorem ensures_throw {error : AnnotationError} :
    (throw error : Annotator Value).Ensures source progress holds := by
  intro value after run
  cases (Prod.mk.inj run).1

@[simp] theorem ensures_read {holds : Text → Progress → Prop} :
    (read : Annotator Text).Ensures source progress holds ↔ holds source progress :=
  ensures_of_ok rfl

@[simp] theorem ensures_get {holds : Progress → Progress → Prop} :
    (get : Annotator Progress).Ensures source progress holds ↔ holds progress progress :=
  ensures_of_ok rfl

@[simp] theorem ensures_report {event : Event} {holds : Unit → Progress → Prop} :
    (Annotate.report event).Ensures source progress holds ↔
      holds () { progress with events := progress.events ++ [event] } :=
  ensures_of_ok rfl

@[simp] theorem ensures_textAt {span : Span} {holds : Text → Progress → Prop} :
    (Annotate.textAt span).Ensures source progress holds ↔ holds (span.text source) progress :=
  ensures_of_ok rfl

@[simp] theorem ensures_verbatimSegment {span : Span} {holds : Segment → Progress → Prop} :
    (Annotate.verbatimSegment span).Ensures source progress holds ↔
      holds (.expression (.verbatim span (span.text source))) progress :=
  ensures_of_ok rfl

@[simp] theorem ensures_verbatimCall {span : Span} {holds : Call → Progress → Prop} :
    (Annotate.verbatimCall span).Ensures source progress holds ↔
      holds (.verbatim span (span.text source)) progress :=
  ensures_of_ok rfl

@[simp] theorem ensures_keptPredicate {span : Span} {holds : Segment → Progress → Prop} :
    (Annotate.keptPredicate span).Ensures source progress holds ↔
      holds (.expression (.verbatim span (span.text source)))
        { progress with events := progress.events ++ [.predicateKept span] } :=
  ensures_of_ok rfl

end

end Annotator

end AnnotatedSql
