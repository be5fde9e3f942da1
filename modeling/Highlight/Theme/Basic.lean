import Highlight.Scope.Basic
import Highlight.Style.FontStyle
import Highlight.Unicode.Blank

/-!
# Themes

A theme is an ordered list of rules, each giving a look to the scopes its selector names, and the
two colors that hold where no rule decides. Colors are kept as the theme writes them; the palette
and the renderers interpret them.

A selector is a list of alternatives. One without alternatives belongs to a rule that speaks of the
whole theme and never of a scope.
-/

namespace Highlight

/-- The scopes a rule speaks of. An alternative is a path: its last word names the scope, the words
before it name scopes around it. -/
structure Selector where
  alternatives : List String
deriving Repr, DecidableEq

namespace Selector

/-- The selector of a rule that speaks of no scope. -/
def whole : Selector := ⟨[]⟩

/-- The selector speaks of no scope. -/
def isWhole (s : Selector) : Bool := s.alternatives.isEmpty

/-- The given alternatives without the blanks around them, the empty ones left out. -/
def ofList (alternatives : List String) : Selector :=
  ⟨(alternatives.map Unicode.trim).filter (!·.isEmpty)⟩

/-- The pieces between the commas of a text. -/
def commaPieces : List Char → List Char → List (List Char)
  | piece, [] => [piece.reverse]
  | piece, c :: cs =>
    if c = ',' then piece.reverse :: commaPieces [] cs else commaPieces (c :: piece) cs

/-- Commas separate the alternatives of a selector that is written as one text. -/
def parse (text : String) : Selector := ofList ((commaPieces [] text.toList).map String.ofList)

end Selector

/-- The look a rule gives. -/
structure Style where
  foreground : Option String := none
  background : Option String := none
  fontStyle : FontStyle := {}
deriving Repr, DecidableEq

namespace Style

/-- The style changes nothing. -/
def isEmpty (s : Style) : Bool :=
  s.foreground.isNone && s.background.isNone && s.fontStyle.isPlain

end Style

/-- One rule of a theme. -/
structure Rule where
  name : Option String := none
  selector : Selector := .whole
  style : Style := {}
deriving Repr, DecidableEq

namespace Rule

/-- The rule that stands for "no rule matches". -/
def blank : Rule := {}

/-- The rule says nothing: it names no scope and changes nothing. -/
def isBlank (r : Rule) : Bool := r.selector.isWhole && r.style.isEmpty

/-- The name by which a rule is shown: its own, or its alternatives. -/
def label (r : Rule) : String := r.name.getD (", ".intercalate r.selector.alternatives)

end Rule

/-- A color theme. -/
structure Theme where
  name : String
  foreground : Option String := none
  background : Option String := none
  rules : List Rule
deriving Repr, DecidableEq

namespace Theme

/-- The color of text that no rule colors. -/
def textColor (t : Theme) : String := t.foreground.getD "#000000"

/-- The color behind the text. -/
def pageColor (t : Theme) : String := t.background.getD "#ffffff"

end Theme

end Highlight
