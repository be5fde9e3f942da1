import Highlight.Analyzer.Shell
import Highlight.Console.Run

/-!
# The program

Answers the command line's questions from the real system. The programs that it can run are those
of the built-in shell.
-/

namespace Highlight

/-- Contents of a file, if it can be read. -/
def readContents (path : String) : IO (Option (List UInt8)) := do
  try return some (← IO.FS.readBinFile path).toList
  catch _ => return none

/-- All bytes that are left in a stream. -/
partial def drain (stream : IO.FS.Stream) (seen : ByteArray) : IO ByteArray := do
  let chunk ← stream.read 65536
  if chunk.isEmpty then return seen else drain stream (seen ++ chunk)

/-- The result of a dialogue that the system answers. -/
def Dialogue.converse {α : Type} : Dialogue α → IO α
  | .done a => return a
  | .readFile path next => do (next (← readContents path)).converse
  | .readSettings next => do
    match ← IO.getEnv "HOME" with
    | none => (next none).converse
    | some home => (next (← readContents (home ++ "/" ++ Workspace.settingsName))).converse
  | .readInput next => do (next (← drain (← IO.getStdin) .empty).toList).converse

end Highlight

/-- The entry point. -/
def main (arguments : List String) : IO UInt32 := do
  let outcome ← (Highlight.Console.run Highlight.Shell.launch arguments).converse
  IO.print outcome.output
  if let some e := outcome.failure then IO.eprintln ("Error: " ++ e.message)
  return .ofNat outcome.code
