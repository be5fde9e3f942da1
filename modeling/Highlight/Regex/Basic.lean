import Highlight.Text.Cursor

/-!
# Regexes and searches

A *regex* says of every place of a text whether a match starts there and where it ends. One thing
is known of it: a match runs forward along the text, so it ends at a place of the text at or behind
its start. What a regex finds at a place does not depend on where a search began.

A search tries the places of a line from left to right and takes the first one at which there is a
match. `search?` accepts empty matches; `searchFilled?` tries again behind them until it finds one
that is not. Both stay on the line and move forward (`search?_eq_some`, `searchFilled?_eq_some`).
-/

namespace Highlight

open Cursor (Reaches)

/-- A way to recognise text: whether a match starts at a place, and where it ends. -/
@[ext]
structure Regex where
  /-- Where the match that starts at the cursor ends. -/
  matchAt? : Cursor → Option Cursor
  reaches_of_matchAt? : ∀ {c stop : Cursor}, matchAt? c = some stop → c.Reaches stop

/-- A stretch of a line found by a regex. -/
structure Found where
  start : Cursor
  stop : Cursor

namespace Found

/-- The stretch holds no character. -/
def isEmpty (f : Found) : Bool := f.stop.offset ≤ f.start.offset

theorem isEmpty_eq_false_iff {f : Found} :
    f.isEmpty = false ↔ f.start.offset < f.stop.offset := by
  simp [isEmpty]

/-- Where a search goes on that has no use for the stretch: behind it, and at least one character
behind its start. -/
def resume (f : Found) : Cursor := if f.isEmpty then f.start.next else f.stop

end Found

namespace Regex

variable {r : Regex} {c : Cursor} {found : Found}

/-! ## The first match -/

/-- The first match at or after a place that is given by its parts. -/
def searchFrom (r : Regex) : List Char → List Char → Nat → Option Found
  | before, [], offset =>
    (r.matchAt? ⟨before, [], offset⟩).map fun stop => ⟨⟨before, [], offset⟩, stop⟩
  | before, ch :: rest, offset =>
    match r.matchAt? ⟨before, ch :: rest, offset⟩ with
    | some stop => some ⟨⟨before, ch :: rest, offset⟩, stop⟩
    | none => r.searchFrom (ch :: before) rest (offset + ch.utf8Size)

/-- The first match at or after the cursor. -/
def search? (r : Regex) (c : Cursor) : Option Found := r.searchFrom c.before c.rest c.offset

theorem searchFrom_eq_some (rest : List Char) :
    ∀ (before : List Char) (offset : Nat), r.searchFrom before rest offset = some found →
      Reaches ⟨before, rest, offset⟩ found.start ∧ r.matchAt? found.start = some found.stop := by
  induction rest with
  | nil =>
    intro before offset h
    obtain ⟨stop, matched, rfl⟩ := Option.map_eq_some_iff.mp h
    exact ⟨.refl _, matched⟩
  | cons ch rest ih =>
    intro before offset h
    rw [searchFrom] at h
    split at h
    next stop matched =>
      cases h
      exact ⟨.refl _, matched⟩
    next =>
      obtain ⟨reached, matched⟩ := ih _ _ h
      exact ⟨(Cursor.reaches_next ⟨before, ch :: rest, offset⟩).trans reached, matched⟩

/-- A search finds a place at or behind the cursor, with the match that starts there. -/
theorem search?_eq_some (h : r.search? c = some found) :
    c.Reaches found.start ∧ r.matchAt? found.start = some found.stop :=
  searchFrom_eq_some c.rest c.before c.offset h

/-- A search that goes on behind a match moves forward. -/
theorem reaches_resume (h : r.search? c = some found) : c.Reaches found.resume := by
  obtain ⟨reached, matched⟩ := search?_eq_some h
  unfold Found.resume
  split
  · exact reached.trans found.start.reaches_next
  · exact reached.trans (r.reaches_of_matchAt? matched)

/-- One character behind what a search finds, less is left of the text than where it began. -/
theorem rest_length_next_search? (text : ¬ c.atEnd) (h : r.search? c = some found) :
    found.start.next.rest.length < c.rest.length := by
  have further := (search?_eq_some h).1.rest_length_le
  have some := Cursor.rest_length_pos text
  rw [Cursor.rest_length_next]
  omega

/-- Behind a match that is passed over, less is left of the text than where the search began. -/
theorem rest_length_resume (text : ¬ c.atEnd) (h : r.search? c = some found) :
    found.resume.rest.length < c.rest.length := by
  unfold Found.resume
  split
  next => exact rest_length_next_search? text h
  next filled =>
    obtain ⟨reached, matched⟩ := search?_eq_some h
    have wide := Found.isEmpty_eq_false_iff.mp (Bool.eq_false_iff.mpr filled)
    have shorter := (r.reaches_of_matchAt? matched).rest_length_lt wide
    exact Nat.lt_of_lt_of_le shorter reached.rest_length_le

/-! ## The first match with text -/

/-- Where the match at the cursor ends, if that match is not empty. -/
def filledAt? (r : Regex) (c : Cursor) : Option Cursor :=
  (r.matchAt? c).filter fun stop => c.offset < stop.offset

theorem filledAt?_eq_some_iff {stop : Cursor} :
    r.filledAt? c = some stop ↔ r.matchAt? c = some stop ∧ c.offset < stop.offset := by
  simp [filledAt?, Option.filter_eq_some_iff]

/-- The first match at or after the cursor that is not empty. After an empty match the search goes
on one character further; at the end of the text it is over. -/
def searchFilled? (r : Regex) (c : Cursor) : Option Found :=
  if _ : c.atEnd then none
  else match _ : r.search? c with
    | none => none
    | some found => if found.isEmpty then r.searchFilled? found.start.next else some found
termination_by c.rest.length
decreasing_by exact rest_length_next_search? (by assumption) (by assumption)

/-- What is found lies at or behind the cursor and is a match with text in it. -/
theorem searchFilled?_eq_some (h : r.searchFilled? c = some found) :
    c.Reaches found.start ∧ r.filledAt? found.start = some found.stop := by
  fun_induction searchFilled? r c with
  | case1 => cases h
  | case2 => cases h
  | case3 c text other searched empty ih =>
    obtain ⟨reached, filled⟩ := ih h
    exact ⟨(search?_eq_some searched).1.trans (other.start.reaches_next.trans reached), filled⟩
  | case4 c text other searched filled =>
    obtain rfl := Option.some.inj h
    obtain ⟨reached, matched⟩ := search?_eq_some searched
    have wide := Found.isEmpty_eq_false_iff.mp (Bool.eq_false_iff.mpr filled)
    exact ⟨reached, filledAt?_eq_some_iff.mpr ⟨matched, wide⟩⟩

end Regex

end Highlight
