import Highlight.Unicode.Ranges

/-!
# Blank characters

The Unicode property `White_Space`, and the two operations that are defined by it: `trim` drops the
blanks at both ends of a text, `words` lists the maximal blank-free pieces of a text. Scope
selectors, font style lists and pattern repetition counts are read with these.
-/

namespace Highlight.Unicode

/-- Ranges of the property `White_Space`. -/
def blankRanges : List (Nat × Nat) :=
  [(0x9, 0xD), (0x20, 0x20), (0x85, 0x85), (0xA0, 0xA0), (0x1680, 0x1680), (0x2000, 0x200A),
   (0x2028, 0x2029), (0x202F, 0x202F), (0x205F, 0x205F), (0x3000, 0x3000)]

/-- The character is blank: it has the property `White_Space`. -/
def isBlank (c : Char) : Bool := inRanges blankRanges c

/-- The text without the blanks at its two ends. -/
def trimChars (cs : List Char) : List Char :=
  ((cs.dropWhile isBlank).reverse.dropWhile isBlank).reverse

/-- The text without the blanks at its two ends. -/
def trim (s : String) : String := String.ofList (trimChars s.toList)

/-- Walks the text with the piece read so far, newest character first. -/
def wordsFrom : List Char → List Char → List (List Char)
  | piece, [] => if piece.isEmpty then [] else [piece.reverse]
  | piece, c :: cs =>
    if isBlank c then
      if piece.isEmpty then wordsFrom [] cs else piece.reverse :: wordsFrom [] cs
    else wordsFrom (c :: piece) cs

/-- The maximal blank-free pieces of a text, in order; none of them is empty. -/
def words (s : String) : List String := (wordsFrom [] s.toList).map String.ofList

end Highlight.Unicode
