/-!
# Lines of a text

A line ends at a carriage return with a line feed, at a carriage return alone or at a line feed.
What follows the last terminator is a line too, so a text with `n` terminators has `n + 1` lines and
the empty text has one.
-/

namespace Highlight

/-- Reads on with the current line so far, newest character first. -/
def linesFrom : List Char → List Char → List (List Char)
  | line, [] => [line.reverse]
  | line, '\r' :: '\n' :: cs => line.reverse :: linesFrom [] cs
  | line, c :: cs =>
    if c = '\n' ∨ c = '\r' then line.reverse :: linesFrom [] cs else linesFrom (c :: line) cs

/-- The lines of a text without their terminators. -/
def splitLines (text : String) : List String := (linesFrom [] text.toList).map String.ofList

end Highlight
