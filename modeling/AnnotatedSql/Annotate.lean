/-
This file reads a source text, annotates its grammar tree and gives the statement or the error.
-/

import AnnotatedSql.Annotate.Tree
import AnnotatedSql.Grammar.Parse

namespace AnnotatedSql

/-- Why a source text has no annotated statement. -/
inductive Failure
  | unparsed (error : Grammar.SyntaxError)
  | rejected (error : AnnotationError)
deriving DecidableEq, Repr

def Failure.message : Failure → String
  | .unparsed error => error.message
  | .rejected error => error.message

namespace Progress

def initial : Progress := ⟨0, []⟩

end Progress

/-- Runs an annotation of trees of the given source. -/
def Annotator.runOn {Value : Type} (annotator : Annotator Value) (source : Text)
    (progress : Progress) : Except AnnotationError Value × Progress :=
  annotator source progress

/-- The outcome for a source text, with the events on the way. -/
def annotateWithEvents (source : Text) : Except Failure Statement × List Event :=
  match Grammar.parse source with
  | .error error => (.error (.unparsed error), [])
  | .ok tree =>
      let outcome := (Annotate.statement tree).runOn source Progress.initial
      (outcome.1.mapError Failure.rejected, outcome.2.events)

/-- The annotated statement of a source text. -/
def annotate (source : Text) : Except Failure Statement := (annotateWithEvents source).1

end AnnotatedSql
