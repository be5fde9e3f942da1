import Highlight.Json.Basic
import Highlight.Text.Hex

/-!
# Printing JSON

The layout puts every item and every member on its own line, two spaces further in than what holds
it; empty arrays and objects stay on one line. Strings escape the quote, the backslash and the
control characters below U+0020, those that have one by their letter and the others by number; all
other characters stand as they are.
-/

namespace Highlight.Json

/-- A character inside a string. -/
def escapeChar (c : Char) : List Char :=
  match c with
  | '\x22' => ['\\', '\x22']
  | '\\' => ['\\', '\\']
  | '\x08' => ['\\', 'b']
  | '\x0c' => ['\\', 'f']
  | '\n' => ['\\', 'n']
  | '\r' => ['\\', 'r']
  | '\t' => ['\\', 't']
  | c =>
    if c.toNat < 0x20 then ['\\', 'u', '0', '0', Hex.char (c.toNat / 16), Hex.char (c.toNat % 16)]
    else [c]

/-- A string with its quotes; a broken one is written as half of a surrogate pair. -/
def printText (text : Option String) : List Char :=
  match text with
  | some s => '\x22' :: s.toList.flatMap escapeChar ++ ['\x22']
  | none => ['\x22', '\\', 'u', 'd', '8', '0', '0', '\x22']

/-- A number: its digits, and its power of ten where it is not plain. -/
def printNumber (d : Decimal) : List Char :=
  (if d.negative then ['-'] else []) ++ Nat.toDigits 10 d.digits ++
    (if d.plain then [] else 'e' :: (toString d.scale).toList)

/-- A new line at the given depth. -/
def lineBreak (depth : Nat) : List Char := '\n' :: List.replicate (2 * depth) ' '

mutual
/-- A value that stands at the given depth. -/
def print (depth : Nat) : Json → List Char
  | .null => ['n', 'u', 'l', 'l']
  | .bool true => ['t', 'r', 'u', 'e']
  | .bool false => ['f', 'a', 'l', 's', 'e']
  | .number d => printNumber d
  | .string text => printText text
  | .array [] => ['[', ']']
  | .array (v :: vs) =>
    '[' :: lineBreak (depth + 1) ++ print (depth + 1) v ++ printItems (depth + 1) vs ++
      lineBreak depth ++ [']']
  | .object [] => ['\x7b', '\x7d']
  | .object ((key, v) :: ms) =>
    '\x7b' :: lineBreak (depth + 1) ++ printText key ++ [':', ' '] ++ print (depth + 1) v ++
      printMembers (depth + 1) ms ++ lineBreak depth ++ ['\x7d']

/-- The items after the first. -/
def printItems (depth : Nat) : List Json → List Char
  | [] => []
  | v :: vs => ',' :: lineBreak depth ++ print depth v ++ printItems depth vs

/-- The members after the first. -/
def printMembers (depth : Nat) : List (Option String × Json) → List Char
  | [] => []
  | (key, v) :: ms =>
    ',' :: lineBreak depth ++ printText key ++ [':', ' '] ++ print depth v ++ printMembers depth ms
end

/-- The value in the indented layout. -/
def pretty (v : Json) : String := String.ofList (print 0 v)

end Highlight.Json
