/-!
# Byte offsets into a text

Every offset of this library counts UTF-8 bytes from the start of a line. A *boundary* of a text is
an offset at which one of its characters starts, or its length. `slice?` cuts a text at two offsets
and answers only when both are boundaries in order, so no cut splits a character.
-/

namespace Highlight

/-- Length of the UTF-8 encoding of a text, in bytes. -/
def byteLength : List Char → Nat
  | [] => 0
  | c :: cs => c.utf8Size + byteLength cs

@[simp] theorem byteLength_nil : byteLength [] = 0 := rfl

@[simp] theorem byteLength_cons (c : Char) (cs : List Char) :
    byteLength (c :: cs) = c.utf8Size + byteLength cs := rfl

theorem byteLength_append (as bs : List Char) :
    byteLength (as ++ bs) = byteLength as + byteLength bs := by
  induction as with
  | nil => simp
  | cons c cs ih => simp [ih, Nat.add_assoc]

/-- The first `n` bytes of a text and what follows them; `none` when `n` is not a boundary. -/
def splitBytes? : Nat → List Char → Option (List Char × List Char)
  | 0, cs => some ([], cs)
  | _ + 1, [] => none
  | n + 1, c :: cs =>
    if c.utf8Size ≤ n + 1 then
      (splitBytes? (n + 1 - c.utf8Size) cs).map fun (front, back) => (c :: front, back)
    else none

/-- The characters from byte `start` to byte `stop`; `none` unless both are boundaries and
`start ≤ stop`. -/
def sliceChars? (cs : List Char) (start stop : Nat) : Option (List Char) :=
  if start ≤ stop then do
    let (_, back) ← splitBytes? start cs
    let (piece, _) ← splitBytes? (stop - start) back
    return piece
  else none

/-- The text from byte `start` to byte `stop`; `none` unless both are boundaries and
`start ≤ stop`. -/
def slice? (s : String) (start stop : Nat) : Option String :=
  (sliceChars? s.toList start stop).map String.ofList

/-- Length of a string in bytes. -/
def byteSize (s : String) : Nat := byteLength s.toList

end Highlight
