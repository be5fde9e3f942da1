import Highlight.Failure
import Highlight.Text.Hex

/-!
# Hexadecimal colors

A color is `#` and 3, 4, 6 or 8 hexadecimal digits: one or two per channel, with or without an alpha
channel, which is ignored. A single digit stands for itself twice.
-/

namespace Highlight

/-- A color by its channels. -/
structure Rgb where
  red : UInt8
  green : UInt8
  blue : UInt8
deriving Repr, DecidableEq

namespace Rgb

/-- The channels that the values of the digits give, if there are as many as a color has. -/
def ofDigits? : List Nat → Option Rgb
  | [r, g, b] | [r, g, b, _] => some ⟨.ofNat (r * 17), .ofNat (g * 17), .ofNat (b * 17)⟩
  | [r, r', g, g', b, b'] | [r, r', g, g', b, b', _, _] =>
    some ⟨.ofNat (r * 16 + r'), .ofNat (g * 16 + g'), .ofNat (b * 16 + b')⟩
  | _ => none

/-- Reads a color. -/
def parse? (value : String) : Option Rgb :=
  match value.toList with
  | '#' :: digits => (digits.mapM Hex.digit?).bind ofDigits?
  | _ => none

/-- Reads a color, and names what is no color. -/
def parse (value : String) : Except Failure Rgb :=
  match parse? value with
  | some color => .ok color
  | none => .error (.invalidColor value)

end Rgb

end Highlight
