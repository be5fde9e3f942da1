import Highlight.Proofs.Text.Slices
import Highlight.Text.Cursor

/-!
# Laws of cursors

A cursor that is reached from one on a text is on that text (`Reaches.on`), every cursor on a text
marks a boundary of it (`On.boundary`), and of two cursors on a text the earlier one reaches the
later one (`On.reaches`).
-/

namespace Highlight.Cursor

/-- Only the cursor itself is reached at its own offset. -/
theorem Reaches.eq_of_offset {c d : Cursor} (h : c.Reaches d) (same : d.offset = c.offset) :
    d = c := by
  obtain ⟨c_before, c_rest, c_offset⟩ := c
  obtain ⟨d_before, d_rest, d_offset⟩ := d
  obtain ⟨mid, rest, before, offset⟩ := h
  have none : mid = [] := byteLength_eq_zero_iff.mp (by simp only at same offset; omega)
  subst none
  simp_all

/-- Of two places reached from a cursor the earlier one reaches the later one. -/
theorem Reaches.reaches {c d e : Cursor} (first : c.Reaches d) (second : c.Reaches e)
    (ordered : d.offset ≤ e.offset) :
    d.Reaches e := by
  obtain ⟨mid, rest, before, offset⟩ := first
  obtain ⟨mid', rest', before', offset'⟩ := second
  obtain ⟨middle, longer, back⟩ := append_extend_of_byteLength (rest.symm.trans rest') (by omega)
  refine ⟨middle, back, ?_, ?_⟩
  · rw [before', before, longer, List.reverse_append, List.append_assoc]
  · rw [offset', offset, longer, byteLength_append, Nat.add_assoc]

/-- No place lies between a cursor and the next one. -/
theorem Reaches.eq_of_lt_next {c d : Cursor} (h : c.Reaches d) (near : d.offset < c.next.offset) :
    d = c := by
  apply h.eq_of_offset
  obtain ⟨mid, rest, _, offset⟩ := h
  cases mid with
  | nil => simpa using offset
  | cons ch mid =>
    simp only [next, rest, List.cons_append] at near
    simp only [byteLength_cons] at offset
    omega

/-- Behind a cursor the next place comes first. -/
theorem Reaches.next_reaches {c d : Cursor} (h : c.Reaches d) (further : c.offset < d.offset) :
    c.next.Reaches d := by
  refine c.reaches_next.reaches h (Nat.not_lt.mp fun near => ?_)
  rw [h.eq_of_lt_next near] at further
  exact Nat.lt_irrefl _ further

theorem Reaches.on {text : List Char} {c d : Cursor} (h : c.Reaches d) (on : c.On text) :
    d.On text := by
  obtain ⟨mid, rest, before, offset⟩ := h
  obtain ⟨spells, counts⟩ := on
  constructor
  · rw [before, List.reverse_append, List.reverse_reverse, List.append_assoc, ← rest, spells]
  · rw [before, List.reverse_append, List.reverse_reverse, byteLength_append, offset, counts]

theorem On.boundary {text : List Char} {c : Cursor} (on : c.On text) : Boundary text c.offset :=
  ⟨c.before.reverse, c.rest, on.1.symm, on.2.symm⟩

/-- What lies before a cursor and what follows it make up the text. -/
theorem On.offset_add_rest {text : List Char} {c : Cursor} (on : c.On text) :
    c.offset + byteLength c.rest = byteLength text := by
  obtain ⟨spells, counts⟩ := on
  rw [← spells, byteLength_append, counts]

/-- Of two cursors on a text the earlier one reaches the later one. -/
theorem On.reaches {text : List Char} {c d : Cursor} (on : c.On text) (on' : d.On text)
    (ordered : c.offset ≤ d.offset) : c.Reaches d := by
  obtain ⟨spells, counts⟩ := on
  obtain ⟨spells', counts'⟩ := on'
  obtain ⟨middle, front, back⟩ := append_extend_of_byteLength (spells.trans spells'.symm) (by omega)
  refine ⟨middle, back, ?_, ?_⟩
  · simpa using congrArg List.reverse front
  · rw [counts', counts, front, byteLength_append]

/-- A text has one cursor at an offset. -/
theorem On.eq_of_offset {text : List Char} {c d : Cursor} (on : c.On text) (on' : d.On text)
    (same : d.offset = c.offset) : d = c :=
  (on.reaches on' (Nat.le_of_eq same.symm)).eq_of_offset same

theorem On.offset_eq_of_rest {text : List Char} {c : Cursor} (on : c.On text)
    (ended : c.rest = []) :
    c.offset = byteLength text := by
  have := on.offset_add_rest
  rw [ended] at this
  simpa using this

theorem not_atEnd_start {line : String} (filled : line ≠ "") : ¬ (start line.toList).atEnd := by
  rw [atEnd_iff]
  simpa [start] using filled

/-! ## Places by their offset -/

theorem seekFrom_append (before front back : List Char) (offset : Nat) :
    seekFrom (offset + byteLength front) before (front ++ back) offset =
      ⟨front.reverse ++ before, back, offset + byteLength front⟩ := by
  induction front generalizing before offset with
  | nil => cases back <;> simp [seekFrom]
  | cons ch front ih =>
    have later : ¬ offset + byteLength (ch :: front) ≤ offset := by
      have := ch.utf8Size_pos
      simp only [byteLength_cons]
      omega
    rw [List.cons_append, seekFrom, if_neg later, byteLength_cons, ← Nat.add_assoc, ih]
    simp

/-- The place behind the front of a text. -/
theorem seek_append (front back : List Char) :
    seek (front ++ back) (byteLength front) = ⟨front.reverse, back, byteLength front⟩ := by
  simpa [seek] using seekFrom_append [] front back 0

/-- Looking for a boundary of a text leads to it. -/
theorem seek_on {text : List Char} {n : Nat} (boundary : Boundary text n) :
    (seek text n).On text ∧ (seek text n).offset = n := by
  obtain ⟨front, back, rfl, rfl⟩ := boundary
  rw [seek_append]
  exact ⟨⟨by simp, by simp⟩, rfl⟩

end Highlight.Cursor
