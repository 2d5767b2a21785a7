/-
This file lists the owners, aliases and table references inside an annotated statement, and says
when they stand under their spans.
-/

import AnnotatedSql.Proofs.Annotate.Placed
import Mathlib.Data.List.Basic

namespace AnnotatedSql

/-- An owner or an alias, or a reference to a table. -/
inductive Naming
  | label (placed : PlacedName)
  | table (table : Table)

/-- An owner or an alias that may be missing. -/
def Naming.ofLabel? : Option PlacedName → List Naming
  | none => []
  | some placed => [.label placed]

def Column.namings (column : Column) : List Naming := Naming.ofLabel? column.owner

def Table.namings (table : Table) : List Naming := .table table :: Naming.ofLabel? table.owner

def OrderItem.namings : OrderItem → List Naming
  | .column reference _ => reference.namings
  | .index _ _ _ | .expression _ _ _ => []

def OrderList.namingsIn : Option OrderList → List Naming
  | none => []
  | some list => list.items.flatMap OrderItem.namings

mutual

/-- All namings inside an expression, those of nested statements included. -/
def Expression.namings : Expression → List Naming
  | .literal _ _ | .marker _ _ | .verbatim _ _ | .call _ => []
  | .column reference => reference.namings
  | .subquery _ statement => statement.namings

def Expression.namingsAmong : List Expression → List Naming
  | [] => []
  | first :: rest => first.namings ++ Expression.namingsAmong rest

def Comparand.namings : Comparand → List Naming
  | .compared _ expression => expression.namings
  | .among _ _ candidates => Expression.namingsAmong candidates
  | .between lower upper => lower.namings ++ upper.namings
  | .column reference => reference.namings

def Predicate.namings : Predicate → List Naming
  | ⟨_, column, comparand⟩ => column.namings ++ comparand.namings

def Segment.namings : Segment → List Naming
  | .expression inner => inner.namings
  | .predicate inner => inner.namings
  | .logical _ _ parts => Segment.namingsAmong parts

def Segment.namingsAmong : List Segment → List Naming
  | [] => []
  | first :: rest => first.namings ++ Segment.namingsAmong rest

def SelectItem.namings : SelectItem → List Naming
  | .shorthand _ owner => Naming.ofLabel? owner
  | .expression _ segment itemLabel => segment.namings ++ Naming.ofLabel? itemLabel

def SelectItem.namingsAmong : List SelectItem → List Naming
  | [] => []
  | first :: rest => first.namings ++ SelectItem.namingsAmong rest

def Condition.namingsIn : Option Condition → List Naming
  | none => []
  | some ⟨_, segment⟩ => segment.namings

/-- All namings inside a statement, clause by clause. -/
def Statement.namings : Statement → List Naming
  | ⟨_, ⟨_, _, items⟩, tables, condition, grouping, having, ordering, _⟩ =>
      SelectItem.namingsAmong items ++ tables.flatMap Table.namings ++
        Condition.namingsIn condition ++ OrderList.namingsIn grouping ++
        Condition.namingsIn having ++ OrderList.namingsIn ordering

end

namespace Segment

theorem namingsAmong_append (first second : List Segment) :
    namingsAmong (first ++ second) = namingsAmong first ++ namingsAmong second := by
  induction first with
  | nil => rw [List.nil_append, namingsAmong, List.nil_append]
  | cons segment rest ih =>
      rw [List.cons_append, namingsAmong, namingsAmong, ih, List.append_assoc]

theorem namings_join (left right : Segment) (connective : Connective) (span : Span) :
    (left.join connective right span).namings = left.namings ++ right.namings := by
  have chain : namingsAmong (left.chainParts connective) = left.namings := by
    unfold chainParts
    split
    · split
      · rw [namings]
      · rw [namingsAmong, namingsAmong, List.append_nil]
    · rw [namingsAmong, namingsAmong, List.append_nil]
  rw [join, namings, namingsAmong_append, chain, namingsAmong, namingsAmong, List.append_nil]

theorem namings_column {segment : Segment} {column : Column}
    (found : segment.column? = some column) : segment.namings = column.namings := by
  unfold column? at found
  split at found
  · rw [namings, Expression.namings, Option.some.inj found]
  · cases found

end Segment

/-! ### Names under their spans -/

/-- The source has the name, as it is written there, under the span. -/
def Span.Names (span : Span) (source : Text) (name : Name) : Prop :=
  (span.text? source).map Name.ofText = some name

/-- The name of a table is placed where the whole reference stands. So it is what stands there only
for a table without an owner; with an owner, it is the last part of what stands there. -/
structure Table.Covers (source : Text) (table : Table) : Prop where
  whole : table.span = table.name.span
  alone : table.name.span.Names source table.name.name ↔ table.owner = none
  part : ∃ part : Span, part.Within table.name.span ∧ part.stop = table.name.span.stop ∧
    part.Names source table.name.name ∧
    ∀ owner ∈ table.owner, owner.span.start = table.name.span.start ∧ owner.span.Precedes part

/-- An owner or an alias stands under its span, and a table as its reference has it. -/
def Naming.Sits (source : Text) : Naming → Prop
  | .label placed => placed.span.Names source placed.name
  | .table reference => reference.Covers source

/-- All of the namings stand where they are said to stand. -/
def Naming.AllSit (source : Text) (namings : List Naming) : Prop :=
  ∀ naming ∈ namings, naming.Sits source

section
variable {source : Text} {namings further : List Naming}

@[simp] theorem allSit_nil : Naming.AllSit source [] := nofun

@[simp] theorem allSit_append :
    Naming.AllSit source (namings ++ further) ↔
      Naming.AllSit source namings ∧ Naming.AllSit source further :=
  List.forall_mem_append

/-- As an expression a segment has no other namings. -/
theorem Segment.allSit_toExpression {segment : Segment}
    (sits : Naming.AllSit source segment.namings) :
    Naming.AllSit source (segment.toExpression source).namings := by
  unfold Segment.toExpression
  split
  · rw [Segment.namings] at sits
    exact sits
  · rw [Expression.namings]
    exact allSit_nil

theorem Expression.allSit_toExpression {segments : List Segment}
    (sits : Naming.AllSit source (Segment.namingsAmong segments)) :
    Naming.AllSit source
      (Expression.namingsAmong (segments.map fun segment => segment.toExpression source)) := by
  induction segments with
  | nil =>
      rw [List.map_nil, Expression.namingsAmong]
      exact allSit_nil
  | cons first rest ih =>
      rw [Segment.namingsAmong, allSit_append] at sits
      rw [List.map_cons, Expression.namingsAmong, allSit_append]
      exact ⟨Segment.allSit_toExpression sits.1, ih sits.2⟩

end

/-! ### Dots in names -/

namespace Name

theorem count_dot_undouble {mark : Char} (other : mark ≠ '.') :
    ∀ text : Text, (text.undouble mark).count '.' = text.count '.'
  | [] => rfl
  | [_] => rfl
  | first :: second :: rest => by
      rw [Text.undouble]
      split
      next both =>
        obtain ⟨rfl, rfl⟩ := both
        rw [List.count_cons_of_ne other, List.count_cons_of_ne other, List.count_cons_of_ne other,
          count_dot_undouble other rest]
      next =>
        simp only [List.count_cons (b := first), count_dot_undouble other (second :: rest)]

/-- The outer marks are no dots. -/
theorem count_dot_inner {opening closing : Char} {text : Text} (first : opening ≠ '.')
    (last : closing ≠ '.') (enclosed : text.isEnclosed opening closing = true) :
    text.inner.count '.' = text.count '.' := by
  simp only [Text.isEnclosed, Bool.and_eq_true, decide_eq_true_eq, beq_iff_eq] at enclosed
  obtain ⟨⟨long, starts⟩, ends⟩ := enclosed
  obtain ⟨rest, rfl⟩ := List.head?_eq_some_iff.mp starts
  rcases List.eq_nil_or_concat' rest with rfl | ⟨middle, final, rfl⟩
  · simp at long
  · rw [← List.cons_append, List.getLast?_concat, Option.some.injEq] at ends
    subst ends
    rw [Text.inner, List.tail_cons, List.dropLast_concat, List.count_cons_of_ne first,
      List.count_append, List.count_cons_of_ne last, List.count_nil, Nat.add_zero]

/-- Reading a name neither adds nor takes away a dot. -/
theorem count_dot_ofText (text : Text) : (ofText text).value.count '.' = text.count '.' := by
  unfold ofText
  split
  next enclosed =>
    exact (count_dot_undouble (by decide) _).trans
      (count_dot_inner (by decide) (by decide) enclosed)
  split
  next enclosed =>
    exact (count_dot_undouble (by decide) _).trans
      (count_dot_inner (by decide) (by decide) enclosed)
  split
  next enclosed =>
    exact (count_dot_undouble (by decide) _).trans
      (count_dot_inner (by decide) (by decide) enclosed)
  rfl

end Name

end AnnotatedSql
