/-
This file lists the parameter markers and the statements that an annotated statement keeps.
-/

import AnnotatedSql.Statement

namespace AnnotatedSql

/-- A part of a result that tells of parameter markers: a marker with its number, or a statement
with the number of markers up to its end. -/
inductive Kept
  | marker (span : Span) (index : Nat)
  | statement (statement : Statement)

mutual

/-- All markers and statements inside an expression. -/
def Expression.kept : Expression → List Kept
  | .literal _ _ | .column _ | .verbatim _ _ | .call _ => []
  | .marker span index => [.marker span index]
  | .subquery _ statement => statement.kept

def Expression.keptAmong : List Expression → List Kept
  | [] => []
  | first :: rest => first.kept ++ Expression.keptAmong rest

def Comparand.kept : Comparand → List Kept
  | .compared _ expression => expression.kept
  | .among _ _ candidates => Expression.keptAmong candidates
  | .between lower upper => lower.kept ++ upper.kept
  | .column _ => []

def Predicate.kept : Predicate → List Kept
  | ⟨_, _, comparand⟩ => comparand.kept

def Segment.kept : Segment → List Kept
  | .expression inner => inner.kept
  | .predicate inner => inner.kept
  | .logical _ _ parts => Segment.keptAmong parts

def Segment.keptAmong : List Segment → List Kept
  | [] => []
  | first :: rest => first.kept ++ Segment.keptAmong rest

def SelectItem.kept : SelectItem → List Kept
  | .shorthand _ _ => []
  | .expression _ segment _ => segment.kept

def SelectItem.keptAmong : List SelectItem → List Kept
  | [] => []
  | first :: rest => first.kept ++ SelectItem.keptAmong rest

def Condition.keptIn : Option Condition → List Kept
  | none => []
  | some ⟨_, segment⟩ => segment.kept

/-- The statement itself comes first. -/
def Statement.kept : Statement → List Kept
  | ⟨span, ⟨listSpan, distinct, items⟩, tables, condition, grouping, having, ordering, markers⟩ =>
      .statement ⟨span, ⟨listSpan, distinct, items⟩, tables, condition, grouping, having, ordering,
          markers⟩ ::
        (SelectItem.keptAmong items ++ Condition.keptIn condition ++ Condition.keptIn having)

end

namespace Segment

theorem keptAmong_append (first second : List Segment) :
    keptAmong (first ++ second) = keptAmong first ++ keptAmong second := by
  induction first with
  | nil => rw [List.nil_append, keptAmong, List.nil_append]
  | cons segment rest ih =>
      rw [List.cons_append, keptAmong, keptAmong, ih, List.append_assoc]

/-- Taken apart into a chain, a segment keeps the same. -/
theorem kept_chainParts (connective : Connective) (segment : Segment) :
    keptAmong (segment.chainParts connective) = segment.kept := by
  unfold chainParts
  split
  · split
    · rw [kept]
    · rw [keptAmong, keptAmong, List.append_nil]
  · rw [keptAmong, keptAmong, List.append_nil]

theorem kept_join (left right : Segment) (connective : Connective) (span : Span) :
    (left.join connective right span).kept = left.kept ++ right.kept := by
  rw [join, kept, keptAmong_append, kept_chainParts, keptAmong, keptAmong, List.append_nil]

/-- As an expression a segment keeps nothing new. -/
theorem kept_toExpression (segment : Segment) (source : Text) :
    ∀ one ∈ (segment.toExpression source).kept, one ∈ segment.kept := by
  intro one member
  unfold toExpression at member
  split at member
  · rw [kept]
    exact member
  · rw [Expression.kept] at member
    exact absurd member List.not_mem_nil

theorem keptAmong_toExpression (segments : List Segment) (source : Text) :
    ∀ one ∈ Expression.keptAmong (segments.map fun segment => segment.toExpression source),
      one ∈ keptAmong segments := by
  intro one member
  induction segments with
  | nil =>
      rw [List.map_nil, Expression.keptAmong] at member
      exact absurd member List.not_mem_nil
  | cons first rest ih =>
      rw [List.map_cons, Expression.keptAmong] at member
      rw [keptAmong, List.mem_append]
      rcases List.mem_append.mp member with here | later
      · exact .inl (kept_toExpression first source one here)
      · exact .inr (ih later)

end Segment

end AnnotatedSql
