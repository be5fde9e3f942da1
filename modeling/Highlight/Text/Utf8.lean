/-!
# Bytes as text

Decoding reads a sequence of bytes as UTF-8. Where the bytes spell no character, the longest stretch
that could have started one counts as a single gap, and decoding goes on behind it. A strict reader
refuses gaps, a lenient one puts the replacement character in their place.
-/

namespace Highlight.Utf8

/-- How a lead byte goes on: how many bytes follow it, the range of the first of them, and the value
it carries. `none` for bytes that start no character. -/
def lead? (b : Nat) : Option (Nat × Nat × Nat × Nat) :=
  if b < 0x80 then some (0, 0x80, 0xBF, b)
  else if b < 0xC2 then none
  else if b < 0xE0 then some (1, 0x80, 0xBF, b - 0xC0)
  else if b = 0xE0 then some (2, 0xA0, 0xBF, 0)
  else if b = 0xED then some (2, 0x80, 0x9F, b - 0xE0)
  else if b < 0xF0 then some (2, 0x80, 0xBF, b - 0xE0)
  else if b = 0xF0 then some (3, 0x90, 0xBF, 0)
  else if b < 0xF4 then some (3, 0x80, 0xBF, b - 0xF0)
  else if b = 0xF4 then some (3, 0x80, 0x8F, 4)
  else none

/-- Reads `count` more bytes of a character, the first of them between `low` and `high`, onto the
value so far. The character is absent when the next byte does not fit; that byte is left to be read
again. -/
def follow : (count low high value : Nat) → List UInt8 → Option Char × List UInt8
  | 0, _, _, value, bs => (some (Char.ofNat value), bs)
  | _ + 1, _, _, _, [] => (none, [])
  | count + 1, low, high, value, b :: bs =>
    if low ≤ b.toNat ∧ b.toNat ≤ high then follow count 0x80 0xBF (value * 64 + (b.toNat - 0x80)) bs
    else (none, b :: bs)

/-- What is left after a character is no longer than what was there. -/
theorem follow_length (count low high value : Nat) (bs : List UInt8) :
    (follow count low high value bs).2.length ≤ bs.length := by
  induction bs generalizing count low high value with
  | nil => cases count <;> simp [follow]
  | cons b bs ih =>
    cases count with
    | zero => simp [follow]
    | succ count =>
      simp only [follow]
      split
      · exact Nat.le_succ_of_le (ih ..)
      · simp

/-- The characters that bytes spell, with `none` for every gap. -/
def decode : List UInt8 → List (Option Char)
  | [] => []
  | b :: bs =>
    match lead? b.toNat with
    | none => none :: decode bs
    | some (count, low, high, value) =>
      (follow count low high value bs).1 :: decode (follow count low high value bs).2
termination_by bs => bs.length
decreasing_by
  · simp
  · exact Nat.lt_succ_of_le (follow_length ..)

/-- The text that bytes spell, if they have no gap. -/
def text? (bs : List UInt8) : Option String := ((decode bs).mapM fun c => c).map String.ofList

/-- The text that bytes spell, with the replacement character for every gap. -/
def lenientText (bs : List UInt8) : String :=
  String.ofList ((decode bs).map (·.getD '�'))

/-- The bytes of a text. -/
def bytes (s : String) : List UInt8 := s.toUTF8.toList

end Highlight.Utf8
