/-
This file answers a command line: a SELECT comes as an argument or on the standard input, and
its annotated statement goes out as JSON.
-/

import AnnotatedSql.Annotate
import AnnotatedSql.Statement.Json
import AnnotatedSql.Text.CharacterClass

namespace AnnotatedSql.CommandLine

/-- What a command line asks for; without a text the standard input is read. -/
structure Request where
  pretty : Bool
  sql : Option Text
deriving DecidableEq, Repr

namespace Request

/-- Adds one argument; a text that was given first stays. -/
def add (request : Request) (argument : Text) : Request :=
  if argument = "-p".toList ∨ argument = "--pretty".toList then
    { request with pretty := true }
  else
    { request with sql := request.sql.or (some argument) }

def ofArguments (arguments : List Text) : Request := arguments.foldl add ⟨false, none⟩

end Request

/-- What a command gives back. -/
structure Outcome where
  code : Nat
  output : Text
  errors : Text
deriving DecidableEq, Repr

/-- A failure is reported with the text that it is about and its cause. -/
def report (sql : Text) (failure : Failure) : Text :=
  "Error: Failed to lower: ".toList ++ sql ++ "\n\nCaused by:\n    ".toList ++
    failure.message.toList ++ ['\n']

/-- The outcome for a request and the contents of the standard input. -/
def answer (request : Request) (input : Text) : Outcome :=
  let sql := (request.sql.getD input).trim
  match annotate sql with
  | .error failure => ⟨1, [], report sql failure⟩
  | .ok statement =>
      let json := statement.toJson
      ⟨0, (if request.pretty then json.pretty else json.compact) ++ ['\n'], []⟩

def run (arguments : List Text) (input : Text) : Outcome :=
  answer (Request.ofArguments arguments) input

end AnnotatedSql.CommandLine
