/-!
# Scope names

A scope names what a piece of text is, from the general to the particular, in segments divided by
dots: `string.quoted.double`. A shorter name covers a longer one when it is a run of whole leading
segments of it, so `string` covers `string.quoted` and does not cover `strings`.
-/

namespace Highlight.Scope

/-- The first name is the second one, or the second goes on after it with a dot. -/
def coversChars : List Char → List Char → Bool
  | [], [] => true
  | [], c :: _ => c == '.'
  | _ :: _, [] => false
  | a :: as, b :: bs => a == b && coversChars as bs

/-- The scope equals the selector or continues it after a dot. -/
def covers (selector scope : String) : Bool := coversChars selector.toList scope.toList

/-- The first segment of a scope name. -/
def firstSegment (scope : String) : String := String.ofList (scope.toList.takeWhile (· != '.'))

end Highlight.Scope
