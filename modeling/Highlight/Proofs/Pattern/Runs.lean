import Highlight.Proofs.Pattern.Literal
import Mathlib.Data.List.Induction
import Mathlib.Data.List.TakeWhile

/-!
# Runs of characters

The eager repetition of a set of characters has one preferred match at a place: up to the first
character that is not in the set (`Cursor.skipWhile`). With no least number of rounds that is every
place's match (`head?_ends_star`), with one round at least it is the match where the first character
belongs to the set (`matchAt?_plus`).

A sequence prefers the first way through its first part, where the second part matches from there
(`head?_after`). So two slashes with the rest of the line behind them are found wherever they stand
on a line without line feeds (`filledAt?_restOfLine`).
-/

namespace Highlight

/-- The place behind the characters at the cursor that pass the test. -/
def Cursor.skipWhile (test : Char → Bool) (c : Cursor) : Cursor :=
  ⟨(c.rest.takeWhile test).reverse ++ c.before, c.rest.dropWhile test,
    c.offset + byteLength (c.rest.takeWhile test)⟩

namespace Cursor

variable {test : Char → Bool} {c : Cursor}

theorem skipWhile_next (starts : c.rest.head?.any test) :
    c.next.skipWhile test = c.skipWhile test := by
  obtain ⟨before, _ | ⟨ch, rest⟩, offset⟩ := c
  · cases starts
  · have passes : test ch := starts
    simp [skipWhile, next, passes, Nat.add_assoc]

theorem skipWhile_eq_self (stops : ¬ c.rest.head?.any test) : c.skipWhile test = c := by
  obtain ⟨before, _ | ⟨ch, rest⟩, offset⟩ := c
  · simp [skipWhile]
  · have fails : ¬ test ch := stops
    simp [skipWhile, fails]

end Cursor

/-- The set of the given characters. -/
def CharSet.ofChars (cs : List Char) : CharSet :=
  cs.foldl (fun s ch => .union s (.single ch)) .empty

theorem CharSet.mem_ofChars {cs : List Char} {ch : Char} : (ofChars cs).mem ch ↔ ch ∈ cs := by
  induction cs using List.reverseRecOn with
  | nil => simp [ofChars, mem]
  | append_singleton cs other ih =>
    have grown : ofChars (cs ++ [other]) = .union (ofChars cs) (.single other) := by simp [ofChars]
    rw [grown, mem, Bool.or_eq_true, ih, mem_single, List.mem_append, List.mem_singleton]

namespace Pattern

/-! ## Repetitions of a set -/

section Rounds

variable {here there : Address} {w : Way}

theorem ends_set (s : CharSet) :
    (set s).ends there w = if w.cursor.rest.head?.any s.mem then [w.read] else [] := by
  rw [ends]
  cases w.cursor.rest <;> rfl

/-- Rounds over a set of characters, newest first, end where the characters of the set do. -/
theorem getLast?_rounds_set (s : CharSet) (fuel : Nat) {w : Way} (fresh : here ∉ w.passed)
    (enough : w.cursor.rest.length < fuel) :
    (rounds here true ((set s).ends there) fuel [] w).getLast?.map (·.cursor) =
      some (w.cursor.skipWhile s.mem) := by
  induction fuel generalizing w with
  | zero => exact absurd enough (Nat.not_lt_zero _)
  | succ fuel ih =>
    let v : Way := { w with passed := here :: w.passed }
    have passes : w.pass? here = some v := if_neg fresh
    rw [rounds, passes]
    dsimp only
    rw [if_neg (by simp [Way.listed]), if_pos rfl, ends_set]
    split
    next starts =>
      have text : ¬ w.cursor.atEnd := fun ended => by
        simp [v, Cursor.atEnd_iff.mp ended] at starts
      have shorter : w.cursor.next.rest.length < fuel := by
        have some := Cursor.rest_length_pos text
        rw [w.cursor.rest_length_next]
        omega
      have further := ih (w := v.read) List.not_mem_nil shorter
      obtain ⟨last, found, behind⟩ := Option.map_eq_some_iff.mp further
      have whole : v.read.cursor.skipWhile s.mem = w.cursor.skipWhile s.mem :=
        Cursor.skipWhile_next starts
      rw [List.foldl_cons, List.foldl_nil, List.getLast?_cons, found, ← whole, ← behind]
      rfl
    next stops =>
      rw [Cursor.skipWhile_eq_self stops]
      rfl

theorem head?_someRounds_set (s : CharSet) (w : Way) :
    (someRounds here true ((set s).ends there) w).head?.map (·.cursor) =
      if w.cursor.rest.head?.any s.mem then some (w.cursor.skipWhile s.mem) else none := by
  rw [someRounds, List.head?_reverse, ends_set]
  split
  next starts =>
    have shorter : w.cursor.next.rest.length < w.cursor.rest.length + 1 := by
      rw [w.cursor.rest_length_next]
      omega
    rw [← Cursor.skipWhile_next starts]
    exact getLast?_rounds_set s _ (w := w.read) List.not_mem_nil shorter
  next => rfl

end Rounds

/-- One or more characters of a set. -/
theorem matchAt?_plus (s : CharSet) (c : Cursor) :
    (many (set s) ⟨1, none, true⟩).matchAt? c =
      if c.rest.head?.any s.mem then some (c.skipWhile s.mem) else none := by
  rw [matchAt?, ends, repeated]
  dsimp only [exactly]
  rw [after_singleton, head?_someRounds_set]

/-- Any number of characters of a set. -/
theorem head?_ends_star (s : CharSet) (here : Address) {w : Way} (fresh : here ∉ w.passed) :
    ((many (set s) ⟨0, none, true⟩).ends here w).head?.map (·.cursor) =
      some (w.cursor.skipWhile s.mem) := by
  rw [ends, repeated]
  dsimp only
  rw [if_pos (show (set s).reads from rfl), anyRounds, List.head?_reverse]
  exact getLast?_rounds_set s _ fresh (Nat.lt_succ_self _)

/-! ## Sequences -/

/-- What is preferred after some ways stays preferred when further ways are added. -/
theorem head?_foldl_merge {step : Way → List Way} (ways out : List Way) {w : Way}
    (first : out.head? = some w) :
    (ways.foldl (fun out v => merge out (step v)) out).head? = some w := by
  induction ways generalizing out with
  | nil => exact first
  | cons v ways ih => exact ih _ (by simp [merge, first])

/-- A sequence prefers the first way through its first part, if its second part matches from
there. -/
theorem head?_after {step : Way → List Way} {ways : List Way} {v w : Way}
    (first : ways.head? = some v) (second : (step v).head? = some w) :
    (after ways step).head? = some w := by
  cases ways with
  | nil => cases first
  | cons v' ways =>
    obtain rfl := Option.some.inj first
    have alone : merge [] (step v') = step v' := by simp [merge, Way.listed]
    rw [← alone] at second
    exact head?_foldl_merge ways _ second

/-- Behind a text that stands where a way has come to, the rest of a sequence goes on. -/
theorem exists_ends_spelling (cs : List Char) {ps : List Pattern} (more : ps ≠ []) (here : Address)
    {v w : Way} (skipped : v.skip? cs = some w) : ∃ there,
      (concat (cs.map (fun ch => set (.single ch)) ++ ps)).ends here v =
        (concat ps).ends there w := by
  induction cs generalizing here v with
  | nil =>
    obtain rfl := Option.some.inj skipped
    exact ⟨here, rfl⟩
  | cons ch cs ih =>
    obtain ⟨first, onward⟩ := Option.ite_none_right_eq_some.mp skipped
    obtain ⟨there, rest⟩ := ih (1 :: here) onward
    refine ⟨there, ?_⟩
    have split : concat ((ch :: cs).map (fun ch => set (.single ch)) ++ ps) =
        (set (.single ch)).seq (concat (cs.map (fun ch => set (.single ch)) ++ ps)) := by
      rw [List.map_cons, List.cons_append, concat]
      exact fun none => more (List.append_eq_nil_iff.mp none).2
    rw [split, ends, ends_single, if_pos first, ← rest]
    exact after_singleton _ _

/-- The given characters and all that follows them on the line. -/
def restOfLine (cs : List Char) : Pattern :=
  concat (cs.map (fun ch => set (.single ch)) ++
    [many (set (.compl (.single '\n'))) ⟨0, none, true⟩, assert .textEnd])

/-- On a line without line feeds the characters are found with all that follows them. -/
theorem filledAt?_restOfLine {cs : List Char} (filled : cs ≠ []) {c : Cursor}
    (stands : cs <+: c.rest) (oneLine : '\n' ∉ c.rest) :
    ((restOfLine cs).regex.filledAt? c).isSome := by
  obtain ⟨d, opened⟩ := Option.isSome_iff_exists.mp (Cursor.isSome_skip?_iff.mpr stands)
  obtain ⟨spells, -, further⟩ := Cursor.skip?_eq_some_iff.mp opened
  -- the line goes on to its end
  let last := d.skipWhile (CharSet.compl (.single '\n')).mem
  have ended : last.rest = [] := by
    refine List.dropWhile_eq_nil_iff.mpr fun ch mem => ?_
    have other : ch ≠ '\n' := by
      rintro rfl
      exact oneLine (by rw [spells]; exact List.mem_append_right _ mem)
    simpa [CharSet.mem, ← Bool.not_eq_true, CharSet.mem_single] using other
  have matched : (restOfLine cs).matchAt? c = some last := by
    obtain ⟨v, skipped, rfl⟩ :=
      Option.map_eq_some_iff.mp ((Way.map_cursor_skip? ⟨c, []⟩ cs).trans opened)
    have fresh : v.passed = [] := Way.passed_skip? skipped rfl
    obtain ⟨there, behind⟩ := exists_ends_spelling cs (List.cons_ne_nil _ _) [] skipped
    obtain ⟨w, goes, reached⟩ := Option.map_eq_some_iff.mp
      (head?_ends_star (.compl (.single '\n')) (0 :: there) (w := v) (by simp [fresh]))
    have closes : ((assert .textEnd).ends (1 :: there) w).head? = some w := by
      simp [ends, Assertion.holds, reached, ended, last]
    have ways := head?_after goes closes
    rw [matchAt?, restOfLine, behind]
    exact (congrArg (Option.map (·.cursor)) ways).trans (congrArg some reached)
  have wide : c.offset < last.offset := by
    have text := byteLength_pos filled
    show c.offset < d.offset + _
    omega
  rw [Regex.filledAt?_eq_some_iff.mpr ⟨(matchAt?_regex _ c).trans matched, wide⟩]
  rfl

end Pattern

end Highlight
