import Highlight.Proofs.Regex.Searches

/-!
# Regexes that spell out a text

A literal matches where its characters stand, up to the place behind them (`Cursor.skip?`). A search
for it finds its first occurrence (`search?_literal_eq_some`).

A text at the start of a line (`atStart`) is found by a search only where the search begins, and
only when it begins at the start of the line (`search?_atStart`).
-/

namespace Highlight

/-! ## Places behind a text -/

namespace Cursor

/-- The place behind the given characters, if they stand at the cursor. -/
def skip? (c : Cursor) : List Char → Option Cursor
  | [] => some c
  | ch :: cs => if c.rest.head? = some ch then c.next.skip? cs else none

theorem skip?_eq_some_iff {c d : Cursor} {cs : List Char} :
    c.skip? cs = some d ↔ c.rest = cs ++ d.rest ∧ d.before = cs.reverse ++ c.before ∧
      d.offset = c.offset + byteLength cs := by
  induction cs generalizing c with
  | nil =>
    obtain ⟨before, rest, offset⟩ := c
    obtain ⟨before', rest', offset'⟩ := d
    simp only [skip?, Option.some.injEq, mk.injEq, List.nil_append, List.reverse_nil,
      byteLength_nil, Nat.add_zero]
    constructor
    · rintro ⟨rfl, rfl, rfl⟩
      simp
    · rintro ⟨rfl, rfl, rfl⟩
      simp
  | cons ch cs ih =>
    obtain ⟨before, rest, offset⟩ := c
    cases rest with
    | nil => simp [skip?]
    | cons x rest =>
      by_cases same : x = ch
      · subst same
        have step : skip? ⟨before, x :: rest, offset⟩ (x :: cs) =
            skip? ⟨x :: before, rest, offset + x.utf8Size⟩ cs := if_pos rfl
        rw [step, ih]
        simp [Nat.add_assoc]
      · simp [skip?, same]

/-- The characters stand at the cursor exactly where there is a place behind them. -/
theorem isSome_skip?_iff {c : Cursor} {cs : List Char} : (c.skip? cs).isSome ↔ cs <+: c.rest := by
  rw [Option.isSome_iff_exists]
  constructor
  · rintro ⟨d, found⟩
    exact ⟨d.rest, (skip?_eq_some_iff.mp found).1.symm⟩
  · rintro ⟨rest, spelled⟩
    exact ⟨⟨cs.reverse ++ c.before, rest, c.offset + byteLength cs⟩,
      skip?_eq_some_iff.mpr ⟨spelled.symm, rfl, rfl⟩⟩

theorem reaches_of_skip? {c d : Cursor} {cs : List Char} (found : c.skip? cs = some d) :
    c.Reaches d := by
  obtain ⟨spells, before, offset⟩ := skip?_eq_some_iff.mp found
  exact ⟨cs, spells, before, offset⟩

end Cursor

namespace Regex

/-- The given characters. -/
def literal (cs : List Char) : Regex := ⟨(·.skip? cs), Cursor.reaches_of_skip?⟩

/-- A literal with text in it never has an empty match. -/
theorem filledAt?_literal {cs : List Char} (filled : cs ≠ []) (c : Cursor) :
    (literal cs).filledAt? c = c.skip? cs := by
  rw [filledAt?]
  show (c.skip? cs).filter _ = _
  cases found : c.skip? cs with
  | none => rfl
  | some d =>
    have further := (Cursor.skip?_eq_some_iff.mp found).2.2
    exact Option.filter_some_pos (by simpa [further] using byteLength_pos filled)

/-! ## The first occurrence of a text -/

/-- A search for a text passes over no occurrence of it. -/
theorem exists_search?_literal {cs other : List Char} {c : Cursor}
    (stands : other ++ cs <+: c.rest) :
    ∃ found, (literal cs).search? c = some found ∧
      found.start.offset ≤ c.offset + byteLength other := by
  obtain ⟨back, spells⟩ := stands
  let there : Cursor := ⟨other.reverse ++ c.before, cs ++ back, c.offset + byteLength other⟩
  have reached : c.Reaches there := ⟨other, by rw [← spells, List.append_assoc], rfl, rfl⟩
  have here : ((literal cs).matchAt? there).isSome := Cursor.isSome_skip?_iff.mpr ⟨back, rfl⟩
  have early : ¬ ∀ found ∈ (literal cs).search? c, there.offset < found.start.offset := by
    intro late
    rw [matchAt?_of_search? reached late] at here
    cases here
  cases searched : (literal cs).search? c with
  | none => exact absurd (fun found held => nomatch searched.symm.trans held) early
  | some found =>
    refine ⟨found, rfl, Nat.not_lt.mp fun later => early fun other held => ?_⟩
    obtain rfl := Option.some.inj (searched.symm.trans held)
    exact later

/-- A search for a text finds its first occurrence, with what lies before and behind it. -/
theorem search?_literal_eq_some {cs : List Char} {c : Cursor} {found : Found}
    (searched : (literal cs).search? c = some found) :
    ∃ passed, c.rest = passed ++ cs ++ found.stop.rest ∧
      found.start.before = passed.reverse ++ c.before ∧
      found.stop.before = cs.reverse ++ found.start.before ∧
      found.start.offset = c.offset + byteLength passed ∧
      found.stop.offset = found.start.offset + byteLength cs ∧
      ∀ other, other ++ cs <+: c.rest → passed.length ≤ other.length := by
  obtain ⟨⟨passed, spells, behind, offset⟩, matched⟩ := search?_eq_some searched
  obtain ⟨here, before, wide⟩ := Cursor.skip?_eq_some_iff.mp matched
  refine ⟨passed, by rw [spells, here, List.append_assoc], behind, before, offset, wide, ?_⟩
  intro other stands
  obtain ⟨first, searched', low⟩ := exists_search?_literal stands
  obtain rfl := Option.some.inj (searched.symm.trans searched')
  obtain ⟨back, spells'⟩ := stands
  rw [List.append_assoc] at spells'
  obtain ⟨between, rfl, -⟩ :=
    append_extend_of_byteLength (spells.symm.trans spells'.symm) (by omega)
  rw [List.length_append]
  omega

/-- The search goes on behind an occurrence that it has no use for. -/
theorem resume_of_search?_literal {cs : List Char} (filled : cs ≠ []) {c : Cursor} {found : Found}
    (searched : (literal cs).search? c = some found) : found.resume = found.stop := by
  obtain ⟨-, -, -, -, -, wide, -⟩ := search?_literal_eq_some searched
  have text := byteLength_pos filled
  rw [Found.resume, Found.isEmpty_eq_false_iff.mpr (by omega), if_neg Bool.false_ne_true]

/-! ## A text at the start of a line -/

/-- The given characters at the start of the line. -/
def atStart (cs : List Char) : Regex where
  matchAt? c := if c.before = [] then c.skip? cs else none
  reaches_of_matchAt? matched :=
    Cursor.reaches_of_skip? (Option.ite_none_right_eq_some.mp matched).2

theorem matchAt?_atStart (cs : List Char) (c : Cursor) :
    (atStart cs).matchAt? c = if c.before = [] then c.skip? cs else none := rfl

/-- A search for a text at the start of the line does not look further than where it begins. -/
theorem search?_atStart (cs : List Char) (c : Cursor) :
    (atStart cs).search? c = ((atStart cs).matchAt? c).map fun stop => ⟨c, stop⟩ := by
  obtain ⟨before, rest, offset⟩ := c
  cases rest with
  | nil => rfl
  | cons ch rest =>
    rw [search?, searchFrom]
    cases (atStart cs).matchAt? ⟨before, ch :: rest, offset⟩ with
    | some stop => rfl
    | none =>
      refine Option.eq_none_iff_forall_ne_some.mpr fun found searched => ?_
      obtain ⟨⟨between, -, passed, -⟩, matched⟩ := searchFrom_eq_some _ _ _ searched
      have inner : found.start.before ≠ [] := by simp [passed]
      rw [matchAt?_atStart, if_neg inner] at matched
      cases matched

end Regex

end Highlight
