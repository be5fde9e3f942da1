import Highlight.Grammar.Basic
import Highlight.Language.Basic
import Highlight.Style.Attributes
import Highlight.Theme.Matching
import Highlight.Theme.Palette

/-!
# Languages bound to a theme

Bound to a theme and its palette, a language becomes a grammar: each segment of the scan is a token,
and its look is read off the theme. The look of a scope chain takes its font style from the
innermost scope that any rule decides, and its foreground from the innermost scope whose rule sets a
color that a packed word can name; where no scope does, the theme's text color holds. The background
is always the page color.

In the packed answer, neighbouring segments that look alike are one token.
-/

namespace Highlight

/-- A language with the theme and palette that color it. -/
structure BoundLanguage where
  language : Language
  theme : Theme
  palette : Palette

namespace BoundLanguage

/-- The rules that decide the scopes of a chain, innermost scope first. -/
def decidingRules (b : BoundLanguage) (chain : List String) : List Rule :=
  chain.reverse.filterMap fun scope => (Theme.bestRule? b.theme.rules scope).map (·.rule)

/-- The palette slot of a rule's foreground, if a packed word can name it. -/
def foregroundSlot? (b : BoundLanguage) (r : Rule) : Option Nat :=
  (r.style.foreground.bind b.palette.slot?).filter (· ≤ Attributes.maxSlot)

/-- The look of a scope chain. -/
def attributes (b : BoundLanguage) (chain : List String) : Attributes :=
  let rules := b.decidingRules chain
  let textSlot := (b.palette.slot? b.theme.textColor).getD 1
  let pageSlot := (b.palette.slot? b.theme.pageColor).getD 2
  { language := .ofNat b.language.number
    tokenType := .ofScope (chain.getLast?.getD "")
    fontStyle := (rules.head?.map (·.style.fontStyle)).getD .plain
    foreground := .ofNat ((rules.findSome? b.foregroundSlot?).getD textSlot)
    background := .ofNat pageSlot }

/-- The packed word of a segment's look. -/
def word (b : BoundLanguage) (o : Origin) : UInt32 := (b.attributes (b.language.chain o)).pack

/-- One token per segment; a line without segments is one empty token. -/
def scopedTokens (b : BoundLanguage) (segments : List Segment) : List ScopedToken :=
  if segments.isEmpty then [⟨0, 0, b.language.chain .gap⟩]
  else segments.map fun s => ⟨s.start, s.stop, b.language.chain s.origin⟩

/-- Offset and word of every segment whose word differs from the one before it. -/
def packFrom (b : BoundLanguage) : Option UInt32 → List Segment → List UInt32
  | _, [] => []
  | last, s :: ss =>
    let w := b.word s.origin
    if last = some w then b.packFrom last ss
    else .ofNat s.start :: w :: b.packFrom (some w) ss

/-- The packed form of the segments of a line; a line without segments is one token at offset 0. -/
def packedWords (b : BoundLanguage) (segments : List Segment) : List UInt32 :=
  if segments.isEmpty then [0, b.word .gap] else b.packFrom none segments

/-- The grammar of a bound language. -/
def grammar (b : BoundLanguage) : Grammar LineState where
  tokens line prior :=
    let (segments, state) := b.language.scan line (prior.getD .normal)
    (b.scopedTokens segments, state)
  words line prior :=
    let (segments, state) := b.language.scan line (prior.getD .normal)
    (b.packedWords segments, state)

end BoundLanguage

end Highlight
