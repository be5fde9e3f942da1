import Highlight.Theme.Basic

/-!
# Palettes

Packed token words name colors by number. A palette hands out those numbers: slot 0 is reserved,
every new color takes the next slot, and a color that differs from an earlier one only in ASCII case
is the same color. Colors are kept in upper case.

A palette is asked in both directions, and keeps a store for each: the colors by their slots, behind
the empty text in the reserved one, and the slots by their colors.

The palette of a theme starts with the text color and the page color, and goes on with the colors of
the rules.
-/

namespace Highlight

/-- The color with its ASCII letters in upper case. -/
def upperColor (color : String) : String := String.ofList (color.toList.map Char.toUpper)

/-- Colors and their slots. -/
structure Palette where
  /-- The colors by slot, the reserved slot included. -/
  colors : List String
  /-- The slots by color, the latest first. -/
  slots : List (String × Nat)
deriving Repr, DecidableEq

namespace Palette

/-- The palette that holds the reserved slot only. -/
def empty : Palette := ⟨[""], []⟩

/-- The slot of a color, if the palette has it. -/
def slot? (p : Palette) (color : String) : Option Nat := p.slots.lookup (upperColor color)

/-- The color of a slot; the reserved slot has none. -/
def color? (p : Palette) (slot : Nat) : Option String :=
  match slot with
  | 0 => none
  | _ => p.colors[slot]?

/-- Number of slots, the reserved one included. -/
def size (p : Palette) : Nat := p.colors.length

/-- The palette holds no color. -/
def isEmpty (p : Palette) : Bool := p.size ≤ 1

/-- The palette with the color, and the color's slot. -/
def intern (p : Palette) (color : String) : Palette × Nat :=
  match p.slot? color with
  | some slot => (p, slot)
  | none =>
    let key := upperColor color
    let slot := p.colors.length
    (⟨p.colors ++ [key], (key, slot) :: p.slots⟩, slot)

/-- The palette with the color. -/
def insert (p : Palette) (color : String) : Palette := (p.intern color).1

/-- The colors a theme mentions, in the order in which they are numbered. -/
def mentioned (theme : Theme) : List String :=
  theme.textColor :: theme.pageColor ::
    theme.rules.flatMap fun r => r.style.foreground.toList ++ r.style.background.toList

/-- The palette of a theme. -/
def ofTheme (theme : Theme) : Palette := (mentioned theme).foldl insert empty

end Palette

end Highlight
