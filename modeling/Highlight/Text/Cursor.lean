import Highlight.Text.Bytes

/-!
# Cursors on a text

A cursor is a place between two characters of a text: what lies before it, nearest character first,
what follows, and its byte offset. Looking at both neighbours is a pattern match, and moving forward
is a step of the list, so searches over a text never leave its character boundaries.

A cursor *reaches* another one when some characters of the text lie between them. Reaching mentions
no text, so a search that only moves forward is described without naming the line it runs on. A loop
along a text ends because every round reaches a place further right, with fewer characters behind it
(`Reaches.rest_length_lt`).
-/

namespace Highlight

/-- A place in a text: the characters before it, nearest first, those after it, and its byte
offset. -/
structure Cursor where
  before : List Char
  rest : List Char
  offset : Nat
deriving Repr

namespace Cursor

/-- The cursor at the start of a text. -/
def start (text : List Char) : Cursor := ⟨[], text, 0⟩

/-- The cursor stands on the text: its two sides spell it and its offset counts the bytes before
it. -/
def On (text : List Char) (c : Cursor) : Prop :=
  c.before.reverse ++ c.rest = text ∧ c.offset = byteLength c.before.reverse

theorem start_on (text : List Char) : (start text).On text := by simp [On, start]

/-- Nothing follows the cursor. -/
def atEnd (c : Cursor) : Bool := c.rest.isEmpty

/-- The place after the next character; the cursor itself at the end of the text. -/
def next (c : Cursor) : Cursor :=
  match c.rest with
  | [] => c
  | ch :: rest => ⟨ch :: c.before, rest, c.offset + ch.utf8Size⟩

/-- The first place at or after byte `target`, reading on from the given one. -/
def seekFrom (target : Nat) : List Char → List Char → Nat → Cursor
  | before, [], offset => ⟨before, [], offset⟩
  | before, ch :: rest, offset =>
    if target ≤ offset then ⟨before, ch :: rest, offset⟩
    else seekFrom target (ch :: before) rest (offset + ch.utf8Size)

/-- The first place of the text at or after byte `target`; its end when there is none. -/
def seek (text : List Char) (target : Nat) : Cursor := seekFrom target [] text 0

/-! ## Reading on -/

/-- Reading on from the first cursor leads to the second. -/
def Reaches (c d : Cursor) : Prop :=
  ∃ between, c.rest = between ++ d.rest ∧ d.before = between.reverse ++ c.before ∧
    d.offset = c.offset + byteLength between

theorem Reaches.refl (c : Cursor) : c.Reaches c := ⟨[], rfl, rfl, rfl⟩

theorem Reaches.trans {c d e : Cursor} (first : c.Reaches d) (second : d.Reaches e) :
    c.Reaches e := by
  obtain ⟨mid, rest, before, offset⟩ := first
  obtain ⟨mid', rest', before', offset'⟩ := second
  refine ⟨mid ++ mid', ?_, ?_, ?_⟩
  · rw [rest, rest', List.append_assoc]
  · rw [before', before, List.reverse_append, List.append_assoc]
  · rw [offset', offset, byteLength_append, Nat.add_assoc]

theorem reaches_next (c : Cursor) : c.Reaches c.next := by
  obtain ⟨before, rest, offset⟩ := c
  cases rest with
  | nil => exact .refl _
  | cons ch rest => exact ⟨[ch], rfl, rfl, by simp [next]⟩

theorem Reaches.offset_le {c d : Cursor} (h : c.Reaches d) : c.offset ≤ d.offset := by
  obtain ⟨_, _, _, offset⟩ := h
  omega

theorem Reaches.rest_length_le {c d : Cursor} (h : c.Reaches d) :
    d.rest.length ≤ c.rest.length := by
  obtain ⟨mid, rest, _, _⟩ := h
  rw [rest, List.length_append]
  omega

/-- A place further right has fewer characters behind it. -/
theorem Reaches.rest_length_lt {c d : Cursor} (h : c.Reaches d) (further : c.offset < d.offset) :
    d.rest.length < c.rest.length := by
  obtain ⟨mid, rest, _, offset⟩ := h
  cases mid with
  | nil => simp only [byteLength_nil, Nat.add_zero] at offset; omega
  | cons ch mid =>
    rw [rest, List.length_append, List.length_cons]
    omega

theorem rest_length_next (c : Cursor) : c.next.rest.length = c.rest.length - 1 := by
  obtain ⟨before, rest, offset⟩ := c
  cases rest <;> rfl

theorem atEnd_iff {c : Cursor} : c.atEnd ↔ c.rest = [] := by simp [atEnd]

theorem rest_length_pos {c : Cursor} (text : ¬ c.atEnd) : 0 < c.rest.length :=
  List.length_pos_iff.mpr fun none => text (atEnd_iff.mpr none)

end Cursor

end Highlight
