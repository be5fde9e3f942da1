import Highlight.Failure

/-!
# Command line arguments

Options may stand anywhere; the last one of a kind counts, and so does the last file. A request for
help or for the version wins over all that follows it.
-/

namespace Highlight

/-- In which form the result is written. -/
inductive Format where
  | terminal
  | html
  | json
deriving Repr, DecidableEq

/-- What is to be highlighted, and how. -/
structure Arguments where
  file : Option String := none
  language : Option String := none
  theme : Option String := none
  format : Format := .terminal
  semantic : Bool := false
  explain : Bool := false
deriving Repr, DecidableEq

/-- What a command line asks for. -/
inductive Invocation where
  | help
  | version
  | highlight (arguments : Arguments)
deriving Repr, DecidableEq

namespace Arguments

/-- Reads the arguments from left to right. -/
def parse : Arguments → List String → Except Failure Invocation
  | a, [] => .ok (.highlight a)
  | a, option :: rest =>
    if option = "--help" ∨ option = "-h" then .ok .help
    else if option = "--version" ∨ option = "-V" then .ok .version
    else if option = "--lang" ∨ option = "-l" then
      match rest with
      | [] => .error (.usage (.missingValue option))
      | value :: rest => parse { a with language := some value } rest
    else if option = "--theme" ∨ option = "-t" then
      match rest with
      | [] => .error (.usage (.missingValue option))
      | value :: rest => parse { a with theme := some value } rest
    else if option = "--html" then parse { a with format := .html } rest
    else if option = "--json" then parse { a with format := .json } rest
    else if option = "--semantic" then parse { a with semantic := true } rest
    else if option = "--explain" then parse { a with explain := true } rest
    else if option.toList.head? = some '-' ∧ option ≠ "-" then
      .error (.usage (.unknownOption option))
    else parse { a with file := some option } rest

end Arguments

end Highlight
