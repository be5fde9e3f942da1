import Highlight.Text.Path
import Highlight.Text.Utf8

/-!
# Dialogues with the surrounding system

What the command line computes depends on files and on its input. A `Dialogue` is such a
computation: a tree of questions, with the result at its leaves. It can be answered by the real
system or by a `Workspace`, a fixed set of files.
-/

namespace Highlight

/-- A computation that may ask for the contents of files, for the user's settings and for its input.
Files that cannot be read have no contents. -/
inductive Dialogue (α : Type) where
  | done (result : α)
  | readFile (path : String) (next : Option (List UInt8) → Dialogue α)
  | readSettings (next : Option (List UInt8) → Dialogue α)
  | readInput (next : List UInt8 → Dialogue α)

namespace Dialogue

variable {α β : Type}

/-- Goes on with the result of a dialogue. -/
def bind : Dialogue α → (α → Dialogue β) → Dialogue β
  | .done a, f => f a
  | .readFile path next, f => .readFile path fun c => (next c).bind f
  | .readSettings next, f => .readSettings fun c => (next c).bind f
  | .readInput next, f => .readInput fun c => (next c).bind f

instance : Monad Dialogue where
  pure := .done
  bind := bind

/-- The contents of a file. -/
def file (path : String) : Dialogue (Option (List UInt8)) := .readFile path .done

/-- The contents of the user's settings. -/
def settings : Dialogue (Option (List UInt8)) := .readSettings .done

/-- All of the input. -/
def input : Dialogue (List UInt8) := .readInput .done

/-- The dialogue in which the file at `path` has these contents. -/
def withFile (path : String) (contents : List UInt8) : Dialogue α → Dialogue α
  | .done a => .done a
  | .readFile asked next =>
    if asked = path then (next (some contents)).withFile path contents
    else .readFile asked fun c => (next c).withFile path contents
  | .readSettings next => .readSettings fun c => (next c).withFile path contents
  | .readInput next => .readInput fun c => (next c).withFile path contents

end Dialogue

/-- A directory with its files by path, and an input. The user's settings are one of the files. -/
structure Workspace where
  files : List (String × List UInt8) := []
  input : List UInt8 := []

namespace Workspace

/-- The name of the settings file. -/
def settingsName : String := ".scopetint.toml"

/-- The contents of a file. Outside the directory there is only the empty device. -/
def find? (w : Workspace) (path : String) : Option (List UInt8) :=
  if path.startsWith "/" then (if path = "/dev/null" then some [] else none)
  else if Path.endsInName path then
    (w.files.find? fun (name, _) => Path.parts name == Path.parts path).map (·.2)
  else none

/-- The result of a dialogue that the workspace answers. -/
def answer {α : Type} (w : Workspace) : Dialogue α → α
  | .done a => a
  | .readFile path next => w.answer (next (w.find? path))
  | .readSettings next => w.answer (next (w.find? settingsName))
  | .readInput next => w.answer (next w.input)

end Workspace

end Highlight
