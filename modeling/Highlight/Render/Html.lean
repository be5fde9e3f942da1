import Highlight.Token.Basic

/-!
# HTML

Tokens as a preformatted block: one `span` per token, one line feed per line, and no line feeds
before the closing tags. Text and the page color are escaped; the colors of tokens are written as
they are.
-/

namespace Highlight.Html

/-- A character with a meaning in markup is written as a reference. -/
def escapeChar : Char → List Char
  | '\x22' => "&quot;".toList
  | '&' => "&amp;".toList
  | '\x27' => "&#x27;".toList
  | '/' => "&#x2f;".toList
  | '<' => "&lt;".toList
  | '>' => "&gt;".toList
  | c => [c]

/-- A text in which no character has a meaning in markup. -/
def escape (s : String) : String := String.ofList (s.toList.flatMap escapeChar)

/-- The declarations for a token's look. -/
def declarations (t : Token) : List String :=
  (t.color.map ("color: " ++ ·)).toList ++
    (if t.fontStyle.italic then ["font-style: italic"] else []) ++
    (if t.fontStyle.bold then ["font-weight: bold"] else []) ++
    (if t.fontStyle.underline then ["text-decoration: underline"] else [])

/-- A token. -/
def token (t : Token) : String :=
  let style := "; ".intercalate (declarations t)
  let opening := if style.isEmpty then "<span>" else "<span style=\x22" ++ style ++ "\x22>"
  opening ++ escape t.content ++ "</span>"

/-- A line. -/
def line (ts : List Token) : String := String.join (ts.map token) ++ "\n"

/-- What a page says besides its tokens. -/
structure Page where
  /-- Label of the language, shown above the code. -/
  language : Option String := none
  background : Option String := none

namespace Page

/-- The color behind the code where the page sets none. -/
def defaultBackground : String := "#fff"

/-- All that stands before the code. -/
def opening (p : Page) : String :=
  "<pre class=\x22scopetint\x22 style=\x22background-color: " ++
    escape (p.background.getD defaultBackground) ++ "\x22>" ++
    (p.language.map fun l => "<div class=\x22language-id\x22>" ++ escape l ++ "</div>").getD "" ++
      "<code>"

end Page

/-- A text without the line feeds at its end. -/
def dropLastFeeds (s : String) : String :=
  String.ofList (s.toList.reverse.dropWhile (· = '\n')).reverse

/-- A document. -/
def render (p : Page) (lines : List (List Token)) : String :=
  p.opening ++ dropLastFeeds (String.join (lines.map line)) ++ "</code></pre>"

end Highlight.Html
