import Highlight.Semantic.Record
import Highlight.Theme.Matching
import Highlight.Theme.Palette
import Highlight.Token.Basic

/-!
# Splicing semantic spans into tokens

The tokens of a line stand one behind the other from offset 0 on. A span recolors the part of a
token that it covers: what stands before and behind it keeps the token's look, the part itself takes
the look of the rule for the span's scopes. Only spans that lie within one token, behind the last
span applied, and on the text that the line has there are applied; all others are skipped and change
nothing. Both are counted.
-/

namespace Highlight

/-- How many spans were applied and how many skipped. -/
structure SpliceStats where
  applied : Nat := 0
  skipped : Nat := 0
deriving Repr, DecidableEq

/-- What a splice carries from span to span: the rules with their remembered answers, and the
counts. -/
structure Splicer where
  matcher : Matcher
  stats : SpliceStats := {}

namespace Splicer

/-- One more span is applied. -/
def countApplied (s : Splicer) : Splicer :=
  { s with stats := { s.stats with applied := s.stats.applied + 1 } }

/-- `n` more spans are skipped. -/
def countSkipped (s : Splicer) (n : Nat) : Splicer :=
  { s with stats := { s.stats with skipped := s.stats.skipped + n } }

end Splicer

namespace Token

/-- Length of the token in bytes. -/
def size (t : Token) : Nat := byteSize t.content

/-- The part of a token between two offsets from its start, in the token's look. -/
def piece (t : Token) (start stop : Nat) : Token :=
  { t with content := (slice? t.content start stop).getD "" }

/-- The part of a token between two offsets from its start, in the look of a rule. -/
def painted (t : Token) (rule : Rule) (start stop : Nat) : Token where
  content := (slice? t.content start stop).getD ""
  color := rule.style.foreground.map upperColor
  fontStyle := rule.style.fontStyle

end Token

namespace Span

/-- The span can be applied to the token that starts at `start`, of which all before `cursor` is
done. -/
def fits (span : Span) (line : String) (t : Token) (start cursor : Nat) : Bool :=
  span.start < span.stop && cursor ≤ span.start && span.stop ≤ start + t.size &&
  !span.scopes.isEmpty &&
    match slice? line span.start span.stop with
    | none => false
    | some text => slice? t.content (span.start - start) (span.stop - start) == some text

end Span

/-- What a token becomes behind `cursor` when no span is left for it: all of it if nothing was cut
off, else the rest, if there is any. -/
def lastPiece (t : Token) (start cursor : Nat) : List Token :=
  if cursor = start then [t]
  else if cursor < start + t.size then [t.piece (cursor - start) t.size]
  else []

/-- Applies the spans that start before the end of the token at `start`. The answer holds the pieces
of the token from `cursor` on, and the spans that start behind it. -/
def carve (line : String) (t : Token) (start : Nat) :
    (cursor : Nat) → Splicer → List Span → List Token × List Span × Splicer
  | cursor, s, [] => (lastPiece t start cursor, [], s)
  | cursor, s, span :: spans =>
    if span.start < start + t.size then
      if span.fits line t start cursor then
        let before :=
          if cursor < span.start then [t.piece (cursor - start) (span.start - start)] else []
        let (hit, matcher) := s.matcher.bestOfAny span.scopes
        let rule := (hit.map (·.rule)).getD .blank
        let (pieces, rest, s) := carve line t start span.stop { s with matcher }.countApplied spans
        (before ++ t.painted rule (span.start - start) (span.stop - start) :: pieces, rest, s)
      else carve line t start cursor (s.countSkipped 1) spans
    else (lastPiece t start cursor, span :: spans, s)

/-- Splices spans into the tokens from `start` on. Spans behind the last token are skipped. -/
def spliceFrom (line : String) :
    (start : Nat) → Splicer → List Token → List Span → List Token × Splicer
  | _, s, [], spans => ([], s.countSkipped spans.length)
  | start, s, t :: ts, spans =>
    let (pieces, rest, s) := carve line t start start s spans
    let (others, s) := spliceFrom line (start + t.size) s ts rest
    (pieces ++ others, s)

/-- Splices spans into the tokens of a line. -/
def splice (line : String) (s : Splicer) (tokens : List Token) (spans : List Span) :
    List Token × Splicer :=
  spliceFrom line 0 s tokens spans

end Highlight
