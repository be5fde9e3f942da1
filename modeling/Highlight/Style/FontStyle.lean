import Highlight.Unicode.Blank

/-!
# Font styles

A font style is any combination of italic, bold and underline. It has two spellings: three bits, as
packed token words carry it, and a list of words, as themes write it.
-/

namespace Highlight

/-- Which of the three font attributes are on. -/
structure FontStyle where
  italic : Bool := false
  bold : Bool := false
  underline : Bool := false
deriving Repr, DecidableEq

namespace FontStyle

/-- No attribute is on. -/
def plain : FontStyle := {}

/-- No attribute is on. -/
def isPlain (s : FontStyle) : Bool := !s.italic && !s.bold && !s.underline

/-- Italic counts one, bold two, underline four. -/
def bits (s : FontStyle) : UInt32 :=
  (if s.italic then 1 else 0) ||| (if s.bold then 2 else 0) ||| (if s.underline then 4 else 0)

/-- The style of the three lowest bits; higher bits have no meaning. -/
def ofBits (w : UInt32) : FontStyle :=
  { italic := w &&& 1 != 0, bold := w &&& 2 != 0, underline := w &&& 4 != 0 }

/-- Switches on the attribute a word names; any other word changes nothing. -/
def addWord (s : FontStyle) (word : String) : FontStyle :=
  if word = "italic" then { s with italic := true }
  else if word = "bold" then { s with bold := true }
  else if word = "underline" then { s with underline := true }
  else s

/-- The style that a list of words separated by blanks describes. -/
def parse (text : String) : FontStyle := (Unicode.words text).foldl addWord plain

/-- The attributes as words in the order bold, italic, underline. -/
def names (s : FontStyle) : List String :=
  (if s.bold then ["bold"] else []) ++ (if s.italic then ["italic"] else []) ++
    (if s.underline then ["underline"] else [])

/-- The attributes in one text, separated by single spaces. -/
def text (s : FontStyle) : String := " ".intercalate s.names

end FontStyle

end Highlight
