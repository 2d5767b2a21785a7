/-
This file runs the command line.
-/

import AnnotatedSql.CommandLine

open AnnotatedSql

namespace AnnotatedSql.CommandLine

/-- All that is left on a stream. -/
partial def readAll (stream : IO.FS.Stream) (before : String) : IO String := do
  let line ← stream.getLine
  if line.isEmpty then return before else readAll stream (before ++ line)

end AnnotatedSql.CommandLine

def main (arguments : List String) : IO UInt32 := do
  let request := CommandLine.Request.ofArguments (arguments.map String.toList)
  let input ← match request.sql with
    | some _ => pure ""
    | none => do CommandLine.readAll (← IO.getStdin) ""
  let outcome := CommandLine.answer request input.toList
  IO.print (String.ofList outcome.output)
  IO.eprint (String.ofList outcome.errors)
  return outcome.code.toUInt32
