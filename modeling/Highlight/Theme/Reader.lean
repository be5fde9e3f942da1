import Highlight.Failure
import Highlight.Json.Reader
import Highlight.Text.Path
import Highlight.Theme.Basic
import Highlight.Toml.Reader

/-!
# Reading themes

Theme files are JSON or TOML of one shape: a name, a table of editor colors and a list of rules. A
rule that speaks of the whole theme stays in the list, and supplies the text and page colors where
the editor colors and the rules before it leave them open.
-/

namespace Highlight.Theme

/-- A rule from its data; `surplus` allows records that are lists to be longer than needed. -/
def ruleOfDatum? (surplus : Bool) (d : Datum) : Option Rule := do
  let [name, scope, settings] ←
    d.record? { fields := [["name"], ["scope"], ["settings"]], surplus } | none
  let name ← Datum.field? name none Datum.optionalText?
  let selector ← Datum.field? scope Selector.whole fun
    | .null => some Selector.whole
    | .text s => some (Selector.parse s)
    | d => (d.listOf? Datum.text?).map Selector.ofList
  let style ← Datum.field? settings {} fun d => do
    let [foreground, background, fontStyle] ←
      d.record? { fields := [["foreground"], ["background"], ["fontStyle"]], surplus } | none
    let fontStyle ← Datum.field? fontStyle none Datum.optionalText?
    return { foreground := ← Datum.field? foreground none Datum.optionalText?
             background := ← Datum.field? background none Datum.optionalText?
             fontStyle := (fontStyle.map FontStyle.parse).getD .plain : Style }
  return { name, selector, style }

/-- The first color that the rules for the whole theme give. -/
def wholeColor? (rules : List Rule) (color : Style → Option String) : Option String :=
  rules.findSome? fun r => if r.selector.isWhole then color r.style else none

/-- A theme from its data. Of repeated editor colors the last counts. -/
def ofDatum? (surplus : Bool) (d : Datum) : Option Theme := do
  let [name, colors, rules] ←
    d.record? { fields := [["name"], ["colors"], ["tokenColors", "settings"]], surplus } | none
  let name ← Datum.field? name none Datum.optionalText?
  let colors ← Datum.field? colors [] Datum.textTable?
  let rules ← Datum.field? rules [] (·.listOf? (ruleOfDatum? surplus))
  let editor (key : String) : Option String := colors.reverse.lookup key
  return { name := name.getD ""
           foreground := editor "editor.foreground" <|> wholeColor? rules (·.foreground)
           background := editor "editor.background" <|> wholeColor? rules (·.background)
           rules }

/-- Reads a theme from JSON. -/
def ofJson (text : String) : Except Failure Theme :=
  match (Json.parse? text).bind fun v => ofDatum? false v.toDatum with
  | some theme => .ok theme
  | none => .error .invalidJson

/-- Reads a theme from TOML. -/
def ofToml (text : String) : Except Failure Theme :=
  match (Toml.parse? text).bind (ofDatum? true) with
  | some theme => .ok theme
  | none => .error .invalidToml

/-- Reads a theme file: TOML by its extension, else JSON. A theme without a name takes that of its
file. -/
def ofFile (path contents : String) : Except Failure Theme := do
  let isToml :=
    (Path.extension? path).any fun ext => ext.toList.map Char.toLower == ['t', 'o', 'm', 'l']
  let theme ← if isToml then ofToml contents else ofJson contents
  if theme.name.isEmpty then return { theme with name := (Path.stem? path).getD "" }
  else return theme

end Highlight.Theme
