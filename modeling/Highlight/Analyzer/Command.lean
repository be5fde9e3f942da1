import Highlight.Console.Dialogue
import Highlight.Failure
import Highlight.Semantic.Record
import Highlight.Source.File
import Highlight.Unicode.Blank

/-!
# Analyzers that are programs

A program is run with its own arguments, the flags and the file to analyze, in this order. When it
succeeds, its output is the report; when it fails, what it says on its error channel becomes part of
the failure.
-/

namespace Highlight

/-- A program that has ended, with what it wrote. -/
structure Finished where
  status : ExitStatus := .code 0
  output : List UInt8 := []
  errors : List UInt8 := []

/-- Runs a program with arguments; there may be no program of that name. -/
abbrev Launcher := String → List String → Dialogue (Option Finished)

/-- A program with the arguments that are always given. -/
structure Command where
  program : String
  arguments : List String := []
deriving Repr, DecidableEq

namespace Command

/-- Flags that are given unless others are chosen. -/
def defaultFlags : List String := ["-log=verbose"]

/-- The records that a program found, judged by how it ended. -/
def records (c : Command) : Option Finished → Except Failure (List SemanticRecord)
  | none => .error (.analyzer (.notFound c.program))
  | some f =>
    if f.status = .code 0 then SemanticRecord.parseReport (Utf8.lenientText f.output)
    else .error (.analyzer (.exited c.program f.status (Unicode.trim (Utf8.lenientText f.errors))))

/-- Runs the program on a file. -/
def analyze (c : Command) (launch : Launcher) (flags : List String) (file : SourceFile) :
    Dialogue (Except Failure (List SemanticRecord)) := do
  let finished ← (launch c.program (c.arguments ++ flags ++ [file.name])).withFile file.name
    (Utf8.bytes file.contents)
  return c.records finished

end Command

end Highlight
