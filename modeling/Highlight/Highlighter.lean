import Highlight.Language.Bound
import Highlight.Language.Registry
import Highlight.Render.Html
import Highlight.Render.Terminal
import Highlight.Session
import Highlight.Theme.Dark

/-!
# The highlighter

A theme with the languages to highlight: from a source text to tokens, a page or terminal text in
one step. The language is found first, so an unknown one is reported before anything an analyzer has
to say.
-/

namespace Highlight

/-- A theme with languages. -/
structure Highlighter where
  theme : Theme
  registry : Registry := .builtin
  explain : Bool := false
  /-- Page color that replaces the theme's. -/
  background : Option String := none

namespace Highlighter

/-- The tokens of a text. -/
def tokens (h : Highlighter) (text language : String) (analyzer : Option Analyzer) :
    Except Failure (List (List Token)) := do
  let l ← h.registry.language language
  let session := Session.ofTheme h.theme h.explain
  let bound : BoundLanguage := ⟨l, h.theme, session.painter.palette⟩
  let (lines, _) ← session.highlight bound.grammar text language analyzer
  return lines

/-- The page of a text. -/
def html (h : Highlighter) (text language : String) (analyzer : Option Analyzer) :
    Except Failure String := do
  let lines ← h.tokens text language analyzer
  return Html.render ⟨some language, some (h.background.getD h.theme.pageColor)⟩ lines

/-- The terminal text of a text. -/
def terminal (h : Highlighter) (text language : String) (analyzer : Option Analyzer) :
    Except Failure String := do
  let lines ← h.tokens text language analyzer
  return Terminal.render lines

end Highlighter

end Highlight
