import Highlight.Pattern.Regex
import Highlight.Proofs.Regex.Searches

/-!
# The first match that holds text

In offsets of a text, a search for a match with text finds the first boundary at or behind its start
where the match of the regex holds text, with the end of that match, and it finds nothing exactly
where there is none (`searchFilled?_first`). This holds of every regex, whatever it matches: all
that is used of it is that its matches run forward along the text.
-/

namespace Highlight.Regex

variable {r : Regex} {c : Cursor} {found : Found}

/-! ## Offsets of a text -/

/-- The match at the boundary `s` of the text ends at `e` and holds text. -/
def FilledMatch (r : Regex) (text : String) (s e : Nat) : Prop :=
  ∃ c stop : Cursor, c.On text.toList ∧ c.offset = s ∧ r.matchAt? c = some stop ∧
    stop.offset = e ∧ s < e

/-- The match from `s` to `e` is the first one with text at or behind `start`. -/
structure FirstFilled (r : Regex) (text : String) (start s e : Nat) : Prop where
  behind : start ≤ s
  inside : s < byteSize text
  filled : FilledMatch r text s e
  first : ∀ s' e', start ≤ s' → s' < s → ¬ FilledMatch r text s' e'

theorem filledMatch_iff {text : String} {s e : Nat} (on : c.On text.toList) (here : c.offset = s) :
    FilledMatch r text s e ↔ ∃ stop, r.filledAt? c = some stop ∧ stop.offset = e := by
  simp only [filledAt?_eq_some_iff]
  constructor
  · rintro ⟨c', stop, on', here', matched, rfl, wide⟩
    obtain rfl : c' = c := on.eq_of_offset on' (here'.trans here.symm)
    exact ⟨stop, ⟨matched, here ▸ wide⟩, rfl⟩
  · rintro ⟨stop, ⟨matched, wide⟩, rfl⟩
    exact ⟨c, stop, on, here, matched, rfl, here ▸ wide⟩

theorem FilledMatch.inside {text : String} {s e : Nat} (filled : FilledMatch r text s e) :
    s < byteSize text := by
  obtain ⟨c, stop, on, rfl, matched, rfl, wide⟩ := filled
  have := ((r.reaches_of_matchAt? matched).on on).offset_add_rest
  rw [byteSize]
  omega

/-- There is one first match. -/
theorem FirstFilled.unique {text : String} {start s e s' e' : Nat}
    (one : FirstFilled r text start s e) (other : FirstFilled r text start s' e') :
    s = s' ∧ e = e' := by
  obtain rfl : s = s' := by
    rcases Nat.lt_trichotomy s s' with less | same | more
    · exact absurd one.filled (other.first s e one.behind less)
    · exact same
    · exact absurd other.filled (one.first s' e' other.behind more)
  obtain ⟨c, stop, on, here, matched, rfl, wide⟩ := one.filled
  obtain ⟨stop', filled, rfl⟩ := (filledMatch_iff on here).mp other.filled
  obtain rfl := Option.some.inj (matched.symm.trans (filledAt?_eq_some_iff.mp filled).1)
  exact ⟨rfl, rfl⟩

section Text

variable {text : String} (on : c.On text.toList)
include on

/-- A match with text that the search has not come to is not there. -/
theorem not_filledMatch_of_searchFilled? {s e : Nat} (behind : c.offset ≤ s)
    (early : ∀ found ∈ r.searchFilled? c, s < found.start.offset) : ¬ FilledMatch r text s e := by
  rintro ⟨d, stop, on', rfl, matched, rfl, wide⟩
  have passed := filledAt?_of_searchFilled? (on.reaches on' behind) early
  rw [filledAt?_eq_some_iff.mpr ⟨matched, wide⟩] at passed
  cases passed

theorem firstFilled_of_searchFilled? (h : r.searchFilled? c = some found) :
    FirstFilled r text c.offset found.start.offset found.stop.offset := by
  obtain ⟨reached, filled⟩ := searchFilled?_eq_some h
  have here := (filledMatch_iff (reached.on on) rfl).mpr ⟨_, filled, rfl⟩
  refine ⟨reached.offset_le, here.inside, here, fun s' e' behind early => ?_⟩
  exact not_filledMatch_of_searchFilled? on behind (by simpa [h] using early)

end Text

/-- Whatever the regex is, from a boundary of a text on the search finds the first match that holds
text: of all boundaries at or behind the start, and before the end of the text, the least at which
the match of the regex is not empty, with the end of this match. It finds nothing exactly where
there is no such boundary. -/
theorem searchFilled?_first (r : Regex) (text : String) (start : Nat)
    (boundary : Boundary text.toList start) :
    let found := r.searchFilled? (.seek text.toList start)
    (∀ s e, found.map (fun f => (f.start.offset, f.stop.offset)) = some (s, e) ↔
      FirstFilled r text start s e) ∧
    (found = none ↔ ∀ s e, start ≤ s → s < byteSize text → ¬ FilledMatch r text s e) := by
  obtain ⟨on, here⟩ := Cursor.seek_on boundary
  generalize Cursor.seek text.toList start = c at on here
  subst here
  dsimp only
  cases h : r.searchFilled? c with
  | none =>
    have nowhere (s e : Nat) (behind : c.offset ≤ s) : ¬ FilledMatch r text s e :=
      not_filledMatch_of_searchFilled? on behind (by simp [h])
    refine ⟨fun s e => ?_, ?_⟩
    · exact iff_of_false (by simp) fun first => nowhere s e first.behind first.filled
    · exact iff_of_true rfl fun s e behind _ => nowhere s e behind
  | some found =>
    have first := firstFilled_of_searchFilled? on h
    refine ⟨fun s e => ?_, ?_⟩
    · rw [Option.map_some, Option.some_inj, Prod.mk.injEq]
      constructor
      · rintro ⟨rfl, rfl⟩
        exact first
      · exact first.unique
    · exact iff_of_false (by simp) fun nowhere => nowhere _ _ first.behind first.inside first.filled

/-- Any number of `x`: the match before the accented letter is empty, and the search goes on behind
its two bytes. Behind the `x` there are only empty matches. -/
theorem searchFilled?_first_accented :
    let r := (Pattern.many (.set (.single 'x')) ⟨0, none, true⟩).regex
    Boundary "éxé".toList 0 ∧ FirstFilled r "éxé" 0 2 3 ∧ Boundary "éxé".toList 3 ∧
      ∀ s e, 3 ≤ s → s < 5 → ¬ FilledMatch r "éxé" s e := by
  intro r
  have start : Boundary "éxé".toList 0 := by decide
  have later : Boundary "éxé".toList 3 := by decide
  refine ⟨start, ((searchFilled?_first r "éxé" 0 start).1 2 3).mp ?_, later,
    (searchFilled?_first r "éxé" 3 later).2.mp ?_⟩
  · decide +kernel
  · rw [← Option.map_eq_none_iff (f := fun f => (f.start.offset, f.stop.offset))]
    decide +kernel

end Highlight.Regex
