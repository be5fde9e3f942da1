import Highlight.Proofs.Text.Places
import Highlight.Regex.Basic

/-!
# What searches pass over

A search passes over no match (`matchAt?_of_search?`). A search for a match with text tries again
behind every empty match that it finds, one character further each time, and passes over no match
with text: before a match that is found there is no match at all, where the match is empty there is
no other, and behind it the next round begins at the next place (`filledAt?_of_searchFilled?`).
-/

namespace Highlight.Regex

open Cursor (Reaches)

variable {r : Regex} {c d : Cursor} {found : Found}

theorem searchFrom_passes (rest : List Char) :
    ∀ (before : List Char) (offset : Nat), Reaches ⟨before, rest, offset⟩ d →
      (∀ found ∈ r.searchFrom before rest offset, d.offset < found.start.offset) →
        r.matchAt? d = none := by
  induction rest with
  | nil =>
    intro before offset reached early
    obtain ⟨between, none, -, place⟩ := id reached
    obtain ⟨rfl, -⟩ := List.append_eq_nil_iff.mp none.symm
    obtain rfl := reached.eq_of_offset place
    cases matched : r.matchAt? ⟨before, [], offset⟩ with
    | none => rfl
    | some stop =>
      have early := early ⟨⟨before, [], offset⟩, stop⟩ (by simp [searchFrom, matched])
      exact absurd early (Nat.lt_irrefl _)
  | cons ch rest ih =>
    intro before offset reached early
    rw [searchFrom] at early
    split at early
    next => exact absurd (early _ rfl) (Nat.not_lt.mpr reached.offset_le)
    next silent =>
      obtain ⟨_ | ⟨ch', between⟩, spells, passed, place⟩ := id reached
      · rw [reached.eq_of_offset place]
        exact silent
      · obtain ⟨rfl, onward⟩ := List.cons.inj spells
        refine ih _ _ ⟨between, onward, ?_, ?_⟩ early
        · rw [passed, List.reverse_cons, List.append_assoc, List.singleton_append]
        · rw [place, byteLength_cons, Nat.add_assoc]

/-- A search passes over no match. -/
theorem matchAt?_of_search? (reached : c.Reaches d)
    (early : ∀ found ∈ r.search? c, d.offset < found.start.offset) : r.matchAt? d = none :=
  searchFrom_passes c.rest c.before c.offset reached early

/-- At the end of the text no match holds text. -/
theorem filledAt?_of_atEnd (ended : c.atEnd) : r.filledAt? c = none := by
  refine Option.eq_none_iff_forall_ne_some.mpr fun stop filled => ?_
  obtain ⟨matched, wide⟩ := filledAt?_eq_some_iff.mp filled
  have shorter := (r.reaches_of_matchAt? matched).rest_length_lt wide
  rw [Cursor.atEnd_iff.mp ended] at shorter
  exact Nat.not_lt_zero _ shorter

theorem filledAt?_of_matchAt? (silent : r.matchAt? c = none) : r.filledAt? c = none := by
  rw [filledAt?, silent]
  rfl

/-- Where there is an empty match there is none with text. -/
theorem filledAt?_of_isEmpty (matched : r.matchAt? found.start = some found.stop)
    (empty : found.isEmpty) :
    r.filledAt? found.start = none := by
  refine Option.eq_none_iff_forall_ne_some.mpr fun stop filled => ?_
  obtain ⟨matched', wide⟩ := filledAt?_eq_some_iff.mp filled
  obtain rfl := Option.some.inj (matched.symm.trans matched')
  rw [← Found.isEmpty_eq_false_iff, empty] at wide
  cases wide

/-- The search passes over no match with text. -/
theorem filledAt?_of_searchFilled? (reached : c.Reaches d)
    (early : ∀ found ∈ r.searchFilled? c, d.offset < found.start.offset) :
    r.filledAt? d = none := by
  fun_induction searchFilled? r c with
  | case1 c ended =>
    refine filledAt?_of_atEnd (Cursor.atEnd_iff.mpr (List.eq_nil_of_length_eq_zero ?_))
    have shorter := reached.rest_length_le
    rw [Cursor.atEnd_iff.mp ended] at shorter
    exact Nat.le_zero.mp shorter
  | case2 c text searched =>
    refine filledAt?_of_matchAt? (matchAt?_of_search? reached ?_)
    simp [searched]
  | case3 c text other searched empty ih =>
    obtain ⟨ahead, matched⟩ := search?_eq_some searched
    -- before the empty match, at it, or behind it
    rcases Nat.lt_trichotomy d.offset other.start.offset with before | here | behind
    · refine filledAt?_of_matchAt? (matchAt?_of_search? reached ?_)
      simpa [searched] using before
    · rw [(ahead.reaches reached (Nat.le_of_eq here.symm)).eq_of_offset here]
      exact filledAt?_of_isEmpty matched empty
    · exact ih ((ahead.reaches reached (Nat.le_of_lt behind)).next_reaches behind) early
  | case4 c text other searched filled =>
    refine filledAt?_of_matchAt? (matchAt?_of_search? reached ?_)
    simpa [searched] using early

end Highlight.Regex
