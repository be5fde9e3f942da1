/-!
# Sets of characters given by code point ranges

A property of the Unicode character database is a finite union of closed code point ranges. The
tables of this library list such ranges in ascending order, and `inRanges` is the one reader of
them; it stops at the first range that lies behind the character.
-/

namespace Highlight.Unicode

/-- The character's code point lies in one of the closed ranges, which are in ascending order. -/
def inRanges : List (Nat × Nat) → Char → Bool
  | [], _ => false
  | (lo, hi) :: ranges, c => lo ≤ c.toNat && (c.toNat ≤ hi || inRanges ranges c)

end Highlight.Unicode
