import Highlight.Failure
import Highlight.Language.C
import Highlight.Language.Markdown
import Highlight.Language.Python
import Highlight.Language.Rust
import Highlight.Language.Toml
import Highlight.Text.Path
import Highlight.Unicode.Case

/-!
# Registries of languages

A registry finds languages by id, by alias and by file extension, all without regard to letter case.
Ids go before aliases. Of languages that list the same alias or extension the one added last has it.
A language that is added under a known id replaces the earlier one and keeps its number; a new id
takes the next number, starting at 1.
-/

namespace Highlight

/-- The languages known under their ids, and the ids that aliases and extensions lead to. -/
structure Registry where
  /-- By lower case id, in order of first registration. -/
  languages : List (String × Language) := []
  /-- Latest first. -/
  aliases : List (String × String) := []
  /-- Latest first. -/
  extensions : List (String × String) := []
  nextNumber : Nat := 1

namespace Registry

/-- The registry without languages. -/
def empty : Registry := {}

/-- Puts a language under its id, in the place of the one that was there before. -/
def put (key : String) (l : Language) : List (String × Language) → List (String × Language)
  | [] => [(key, l)]
  | (k, old) :: rest => if k = key then (k, l) :: rest else (k, old) :: put key l rest

/-- Adds a language. -/
def add (r : Registry) (l : Language) : Registry :=
  let key := Unicode.lowercase l.id
  let known := r.languages.lookup key
  let number := (known.map (·.number)).getD r.nextNumber
  let leading (names : List String) : List (String × String) :=
    (names.map fun name => (Unicode.lowercase name, key)).reverse
  { languages := put key { l with number } r.languages
    aliases := leading l.aliases ++ r.aliases
    extensions := leading l.extensions ++ r.extensions
    nextNumber := if known.isSome then r.nextNumber else r.nextNumber + 1 }

/-- The id under which a name is known. -/
def resolve? (r : Registry) (name : String) : Option String :=
  let key := Unicode.lowercase name
  if (r.languages.lookup key).isSome then some key else r.aliases.lookup key

/-- The language with this id or alias. -/
def language? (r : Registry) (name : String) : Option Language :=
  (r.resolve? name).bind fun id => r.languages.lookup id

/-- The language with this id or alias, or a report of the name. -/
def language (r : Registry) (name : String) : Except Failure Language :=
  match r.language? name with
  | some l => .ok l
  | none => .error (.unknownLanguage name)

/-- The id of the language for a file, by the file's extension. -/
def detect? (r : Registry) (path : String) : Option String :=
  (Path.extension? path).bind fun ext => r.extensions.lookup (Unicode.lowercase ext)

/-- The ids of all languages in ascending order. -/
def ids (r : Registry) : List String :=
  (r.languages.map (·.1)).mergeSort fun a b => !decide (b < a)

/-- The registry of the built-in languages. -/
def builtin : Registry :=
  [Language.rust, Language.c, Language.python, Language.toml, Language.markdown].foldl add empty

end Registry

end Highlight
