import Highlight.Pattern.Reader
import Highlight.Pattern.Regex
import Highlight.Proofs.Regex.Literal

/-!
# Patterns that spell out a text

A pattern that spells out characters one after the other has at most one way through it: over these
characters, if they stand there (`Way.skip?`, `ends_literal`). So such patterns are the regexes that
match where the text stands (`regex_literal`, `regex_atStart`).
-/

namespace Highlight

namespace Way

/-- The way over the given characters, if they stand where it has come to. -/
def skip? (w : Way) : List Char → Option Way
  | [] => some w
  | ch :: cs => if w.cursor.rest.head? = some ch then w.read.skip? cs else none

theorem map_cursor_skip? (w : Way) (cs : List Char) :
    (w.skip? cs).map (·.cursor) = w.cursor.skip? cs := by
  induction cs generalizing w with
  | nil => rfl
  | cons ch cs ih =>
    rw [skip?, Cursor.skip?]
    split
    next => exact ih w.read
    next => rfl

theorem passed_skip? {v w : Way} {cs : List Char} (found : v.skip? cs = some w)
    (fresh : v.passed = []) : w.passed = [] := by
  induction cs generalizing v with
  | nil =>
    obtain rfl := Option.some.inj found
    exact fresh
  | cons ch cs ih => exact ih (Option.ite_none_right_eq_some.mp found).2 rfl

end Way

namespace CharSet

theorem mem_single {c d : Char} : (single c).mem d ↔ d = c := by
  simp only [single, mem, Bool.and_eq_true, decide_eq_true_eq]
  constructor
  · rintro ⟨low, high⟩
    exact Char.le_antisymm high low
  · rintro rfl
    exact ⟨Char.le_refl d, Char.le_refl d⟩

end CharSet

namespace Pattern

/-! ## Characters one after the other -/

theorem ends_single (ch : Char) (here : Address) (w : Way) :
    (set (.single ch)).ends here w =
      (if w.cursor.rest.head? = some ch then some w.read else none).toList := by
  rw [ends]
  cases w.cursor.rest with
  | nil => rfl
  | cons x rest =>
    by_cases same : x = ch <;> simp [CharSet.mem_single, same]

theorem ends_literal (cs : List Char) (here : Address) (w : Way) :
    (literal cs).ends here w = (w.skip? cs).toList := by
  induction cs generalizing here w with
  | nil => rfl
  | cons ch cs ih =>
    cases cs with
    | nil => exact ends_single ch here w
    | cons next cs =>
      show after ((set (.single ch)).ends _ w) ((literal (next :: cs)).ends _) = _
      rw [ends_single, Way.skip?]
      split
      next => exact (after_singleton _ _).trans (ih _ _)
      next => rfl

/-! ## Their regexes -/

theorem regex_eq {p : Pattern} {r : Regex} (same : ∀ c, p.matchAt? c = r.matchAt? c) :
    p.regex = r := by
  have equal : p.regex.matchAt? = r.matchAt? := funext fun c => (p.matchAt?_regex c).trans (same c)
  exact Regex.ext equal

theorem regex_literal (cs : List Char) : (literal cs).regex = .literal cs := by
  refine regex_eq fun c => ?_
  rw [matchAt?, ends_literal, Option.head?_toList]
  exact Way.map_cursor_skip? ⟨c, []⟩ cs

/-- The given characters at the start of the line. -/
def atStart (cs : List Char) : Pattern :=
  concat (assert .textStart :: cs.map fun ch => set (.single ch))

theorem ends_atStart (cs : List Char) (here : Address) (w : Way) :
    (atStart cs).ends here w = if w.cursor.before = [] then (w.skip? cs).toList else [] := by
  have first (here : Address) :
      (assert .textStart).ends here w = if w.cursor.before = [] then [w] else [] := by
    simp only [ends, Assertion.holds, List.isEmpty_iff]
  cases cs with
  | nil => exact first here
  | cons ch cs =>
    show after ((assert .textStart).ends _ w) ((literal (ch :: cs)).ends _) = _
    rw [first]
    split
    next => exact (after_singleton _ _).trans (ends_literal _ _ _)
    next => rfl

theorem regex_atStart (cs : List Char) : (atStart cs).regex = .atStart cs := by
  refine regex_eq fun c => ?_
  rw [matchAt?, ends_atStart, Regex.matchAt?_atStart]
  split
  next =>
    rw [Option.head?_toList]
    exact Way.map_cursor_skip? ⟨c, []⟩ cs
  next => rfl

end Pattern

/-! ## Written patterns -/

theorem Regex.read?_of_parse? {source : String} {p : Pattern}
    (read : Pattern.parse? source = some p) : read? source = some p.regex := by
  rw [read?, read, Option.map_some]

theorem Regex.read?_literal {source : String} {cs : List Char}
    (read : Pattern.parse? source = some (.literal cs)) : read? source = some (.literal cs) := by
  rw [read?_of_parse? read, Pattern.regex_literal]

theorem Regex.read?_atStart {source : String} {cs : List Char}
    (read : Pattern.parse? source = some (.atStart cs)) : read? source = some (.atStart cs) := by
  rw [read?_of_parse? read, Pattern.regex_atStart]

end Highlight
