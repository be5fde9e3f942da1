/-!
# Decimal numbers as they are written

A number in a data file is kept exactly: a sign, a natural number and a power of ten. The one
question that the readers ask beyond its value is whether a 64-bit floating point number could hold
it without overflow.
-/

namespace Highlight

/-- The number `± digits · 10 ^ scale`. -/
structure Decimal where
  negative : Bool
  digits : Nat
  scale : Int
  /-- Written with digits only, without fraction and exponent. -/
  plain : Bool
deriving Repr, DecidableEq

namespace Decimal

/-- Value of a decimal digit. -/
def digitValue (c : Char) : Nat := c.toNat - '0'.toNat

/-- The natural number that a list of decimal digits writes. -/
def natural (digits : List Char) : Nat := digits.foldl (fun n c => n * 10 + digitValue c) 0

/-- The least magnitude that rounds to infinity in the 64-bit format: half a step above its greatest
number. -/
def overflowBound : Nat := Nat.pow 2 1024 - Nat.pow 2 970

/-- The number rounds to a finite 64-bit floating point number. The number of digits decides all but
the magnitudes near the bound, so no large power of ten is computed in vain. -/
def isFinite (d : Decimal) : Bool :=
  let magnitude := (Nat.toDigits 10 d.digits).length + d.scale
  if d.digits == 0 || magnitude < 300 then true
  else if 310 < magnitude then false
  else if 0 ≤ d.scale then d.digits * Nat.pow 10 d.scale.toNat < overflowBound
  else d.digits < overflowBound * Nat.pow 10 (-d.scale).toNat

/-- The value, if it is written as a plain natural number below `2 ^ 64`. A sign is not allowed, not
even on zero. -/
def word64? (d : Decimal) : Option Nat :=
  if d.plain && !d.negative && d.digits < 18446744073709551616 then some d.digits else none

end Decimal

end Highlight
