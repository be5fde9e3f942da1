import Highlight.Grammar.Basic
import Highlight.Style.Attributes
import Highlight.Text.Bytes
import Highlight.Theme.Explanation
import Highlight.Theme.Palette
import Highlight.Token.Basic

/-!
# The tokens of a line

A grammar's packed answer for a line is read pair by pair: each pair starts a token, which ends
where the next pair starts, or with the line. Pairs that span no text of the line are passed over.
With explanations, each token takes along the grammar's scoped tokens that start before its end and
belong to no token before it.
-/

namespace Highlight

/-- The pairs of offset and word of a packed answer; a last word without partner is ignored. -/
def wordPairs : List UInt32 → List (Nat × UInt32)
  | offset :: word :: rest => (offset.toNat, word) :: wordPairs rest
  | _ => []

/-- A theme with its palette. -/
structure Painter where
  theme : Theme
  palette : Palette

namespace Painter

/-- The painter of a theme with the theme's own palette. -/
def ofTheme (theme : Theme) : Painter := ⟨theme, .ofTheme theme⟩

/-- A token with the look that a packed word names. -/
def token (p : Painter) (content : String) (word : UInt32) (explanation : Option (List TokenNote)) :
    Token :=
  let look := Attributes.unpack word
  { content, color := p.palette.color? look.foreground.toNat, fontStyle := look.fontStyle,
    explanation }

/-- Explains a token of the grammar. -/
def note (p : Painter) (line : String) (t : ScopedToken) : TokenNote where
  content := (slice? line t.start t.stop).getD ""
  scopes := (Theme.explain p.theme.rules t.scopes).map fun e => ⟨e.scope, e.hits.map (·.rule.label)⟩

/-- Explains the tokens of the grammar that are not empty. -/
def notes (p : Painter) (line : String) (ts : List ScopedToken) : List TokenNote :=
  (ts.filter fun t => t.start < t.stop).map (p.note line)

/-- The tokens of a line from its pairs. `unexplained` holds the grammar's tokens that no
explanation has taken, if explanations are wanted. -/
def lineTokens (p : Painter) (line : String) :
    Option (List ScopedToken) → List (Nat × UInt32) → List Token
  | _, [] => []
  | unexplained, (start, word) :: pairs =>
    let stop := (pairs.head?.map (·.1)).getD (byteSize line)
    match if start < stop then slice? line start stop else none with
    | none => p.lineTokens line unexplained pairs
    | some content =>
      let taken := unexplained.map fun ts => p.notes line (ts.takeWhile (·.start < stop))
      p.token content word taken ::
        p.lineTokens line (unexplained.map (·.dropWhile (·.start < stop))) pairs

end Painter

end Highlight
