/-
This file holds the steps from which annotations are made, and the annotation of names, literals
and markers.
-/

import AnnotatedSql.Annotate.Event
import AnnotatedSql.Grammar.Tree
import AnnotatedSql.Statement

namespace AnnotatedSql

/-- How far an annotation has come: the parameter markers seen so far and the events. -/
structure Progress where
  markers : Nat
  events : List Event
deriving DecidableEq, Repr

/-- An annotation reads the source, counts markers and reports events; both stay as they are
after an error. -/
abbrev Annotator (Value : Type) := ReaderT Text (ExceptT AnnotationError (StateM Progress)) Value

namespace Annotate

def report (event : Event) : Annotator Unit :=
  modify fun progress => { progress with events := progress.events ++ [event] }

/-- The source text under a span. -/
def textAt (span : Span) : Annotator Text := return span.text (← read)

/-- The expression that keeps a span as its text. -/
def verbatim (span : Span) : Annotator Expression := return .verbatim span (← textAt span)

/-- The call that is kept as its text. -/
def verbatimCall (span : Span) : Annotator Call := return .verbatim span (← textAt span)

/-- A marker gets the next number. -/
def marker (span : Span) : Annotator Nat := do
  let index := (← get).markers
  modify fun progress => { progress with markers := progress.markers + 1 }
  report (.markerNumbered index span)
  return index

/-- The slots of a literal are looked at in the order of the grammar. -/
def literal (node : Grammar.Literal) : Annotator Value := do
  match node with
  | ⟨_, some span, _, _, _, _, _⟩ => return .string (stringContents (← textAt span))
  | ⟨_, none, some span, _, _, _, _⟩ => return .number (← textAt span)
  | ⟨_, none, none, some span, _, _, _⟩ => return .other (← textAt span)
  | ⟨_, none, none, none, some span, _, _⟩ => return .other (← textAt span)
  | ⟨_, none, none, none, none, some span, _⟩ => return .boolean (← textAt span)
  | ⟨_, none, none, none, none, none, some span⟩ => return .other (← textAt span)
  | ⟨span, none, none, none, none, none, none⟩ => throw (.malformedLiteral span)

/-- The text of an identifier is that of its unreserved word when it has one. -/
def name (node : Grammar.Identifier) : Annotator Name :=
  return Name.ofText (← textAt (node.unreservedWord.getD node.span))

def placedName (node : Grammar.Label) : Annotator PlacedName :=
  return ⟨node.span, ← name node.identifier⟩

def placedName? : Option Grammar.Label → Annotator (Option PlacedName)
  | none => return none
  | some node => return some (← placedName node)

def dataType (span : Span) : Annotator Text := textAt span

def column (node : Grammar.QualifiedName) : Annotator Column := do
  let name ← name node.name
  let owner ← placedName? node.owner
  return ⟨node.span, name, owner⟩

/-- The name of a table is placed where its whole reference stands. -/
def table (node : Grammar.QualifiedName) : Annotator Table := do
  let name ← name node.name
  let owner ← placedName? node.owner
  return ⟨⟨node.span, name⟩, owner⟩

def tables (node : Grammar.NameList) : Annotator (List Table) := node.names.mapM table

/-- Without a FROM clause there are no tables. -/
def tables? : Option Grammar.NameList → Annotator (List Table)
  | none => return []
  | some node => tables node

def columns (node : Grammar.NameList) : Annotator (List Column) := node.names.mapM column

end Annotate

end AnnotatedSql
