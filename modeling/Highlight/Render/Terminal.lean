import Highlight.Render.HexColor
import Highlight.Token.Basic

/-!
# Terminal text

Tokens for a terminal with 24-bit colors. Each styled token is set between escape sequences and
reset behind; a token with neither a readable color nor a font style is written as it is. Every line
ends with a line feed.
-/

namespace Highlight.Terminal

/-- An escape sequence that selects a graphic rendition. -/
def select (parameters : String) : String := "\x1b[" ++ parameters ++ "m"

/-- The sequence that sets a foreground color. -/
def foreground (color : Rgb) : String :=
  select ("38;2;" ++ toString color.red.toNat ++ ";" ++ toString color.green.toNat ++ ";" ++
    toString color.blue.toNat)

/-- The sequences that set a font style. -/
def face (f : FontStyle) : String :=
  (if f.bold then select "1" else "") ++ (if f.italic then select "3" else "") ++
    (if f.underline then select "4" else "")

/-- The sequences that end all styling. -/
def reset : String := select "0" ++ select "0"

/-- A token. -/
def token (t : Token) : String :=
  let color := t.color.bind Rgb.parse?
  let opening := (color.map foreground).getD "" ++ face t.fontStyle
  opening ++ t.content ++ (if color.isSome || !t.fontStyle.isPlain then reset else "")

/-- A line. -/
def line (ts : List Token) : String := String.join (ts.map token) ++ "\n"

/-- A document. -/
def render (lines : List (List Token)) : String := String.join (lines.map line)

end Highlight.Terminal
