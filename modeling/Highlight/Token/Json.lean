import Highlight.Json.Printer
import Highlight.Token.Basic

/-!
# Tokens as JSON

A token is an object. Its content is always there; color, font style and explanation only where they
are set.
-/

namespace Highlight

/-- A text as JSON. -/
def Json.ofText (s : String) : Json := .string (some s)

/-- A member under a name. -/
def Json.member (name : String) (v : Json) : Option String × Json := (some name, v)

/-- A scope of an explanation as JSON. -/
def ScopeNote.toJson (n : ScopeNote) : Json :=
  .object [Json.member "scopeName" (.ofText n.scope),
    Json.member "themeMatches" (.array (n.labels.map .ofText))]

/-- An entry of an explanation as JSON. -/
def TokenNote.toJson (n : TokenNote) : Json :=
  .object [Json.member "content" (.ofText n.content),
    Json.member "scopes" (.array (n.scopes.map ScopeNote.toJson))]

/-- A token as JSON. -/
def Token.toJson (t : Token) : Json :=
  .object ([Json.member "content" (.ofText t.content)] ++
    (t.color.map fun c => Json.member "color" (.ofText c)).toList ++
    (if t.fontStyle.isPlain then [] else [Json.member "fontStyle" (.ofText t.fontStyle.text)]) ++
    (t.explanation.map fun ns =>
      Json.member "explanation" (.array (ns.map TokenNote.toJson))).toList)

/-- The lines of a document as JSON. -/
def Json.ofLines (lines : List (List Token)) : Json :=
  .array (lines.map fun line => .array (line.map Token.toJson))

end Highlight
