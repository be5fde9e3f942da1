import Highlight.Proofs.Language.Walk

/-!
# A scan tiles its line

The segments of a scan lie one behind the other from the start of the line to its end, on boundaries
of the line. None is empty, with one exception: a construct left open by the line before may close
with an empty match at offset 0, and then its segment comes first and is empty (`scan_tiling`).

Every reading tiles the text from the place where it begins (`Reads.tiling`), and a scan is a
reading.
-/

namespace Highlight

/-- The segments lie one behind the other from byte `start` to byte `stop` of the text; all their
ends are boundaries and none of them is empty. -/
def Tiling (text : List Char) : Nat → Nat → List Segment → Prop
  | start, stop, [] => start = stop ∧ Boundary text stop
  | start, stop, s :: ss =>
    s.start = start ∧ Boundary text start ∧ start < s.stop ∧ Tiling text s.stop stop ss

namespace Tiling

variable {text : List Char}

theorem le {start stop : Nat} {segments : List Segment} (h : Tiling text start stop segments) :
    start ≤ stop := by
  induction segments generalizing start with
  | nil => exact Nat.le_of_eq h.1
  | cons s ss ih =>
    obtain ⟨_, _, filled, rest⟩ := h
    have := ih rest
    omega

/-- Every segment lies within the tiled stretch and holds text. -/
theorem mem_bounds {start stop : Nat} {segments : List Segment}
    (h : Tiling text start stop segments) {s : Segment} (mem : s ∈ segments) :
    start ≤ s.start ∧ s.start < s.stop ∧ s.stop ≤ stop := by
  induction segments generalizing start with
  | nil => cases mem
  | cons first ss ih =>
    obtain ⟨rfl, _, filled, rest⟩ := h
    rcases List.mem_cons.mp mem with rfl | later
    · exact ⟨Nat.le_refl _, filled, rest.le⟩
    · obtain ⟨low, inner, high⟩ := ih rest later
      exact ⟨by omega, inner, high⟩

theorem mem_boundary {start stop : Nat} {segments : List Segment}
    (h : Tiling text start stop segments) {s : Segment} (mem : s ∈ segments) :
    Boundary text s.start := by
  induction segments generalizing start with
  | nil => cases mem
  | cons first ss ih =>
    obtain ⟨rfl, boundary, _, rest⟩ := h
    rcases List.mem_cons.mp mem with rfl | later
    · exact boundary
    · exact ih rest later

/-- Every byte of the stretch lies in a segment. -/
theorem exists_index {start stop : Nat} {segments : List Segment}
    (h : Tiling text start stop segments) {p : Nat} (low : start ≤ p) (high : p < stop) :
    ∃ (i : Nat) (s : Segment), segments[i]? = some s ∧ s.start ≤ p ∧ p < s.stop := by
  induction segments generalizing start with
  | nil =>
    have := h.1
    omega
  | cons first ss ih =>
    obtain ⟨rfl, -, -, rest⟩ := h
    by_cases inside : p < first.stop
    · exact ⟨0, first, rfl, low, inside⟩
    · obtain ⟨i, s, found, bounds⟩ := ih rest (by omega)
      exact ⟨i + 1, s, found, bounds⟩

/-- No byte lies in two segments. -/
theorem index_unique {start stop : Nat} {segments : List Segment}
    (h : Tiling text start stop segments) {p i j : Nat} {s t : Segment}
    (first : segments[i]? = some s) (second : segments[j]? = some t)
    (inFirst : s.start ≤ p ∧ p < s.stop) (inSecond : t.start ≤ p ∧ p < t.stop) : i = j := by
  induction segments generalizing start i j with
  | nil => cases first
  | cons head ss ih =>
    obtain ⟨-, -, -, rest⟩ := h
    have behind : ∀ {k : Nat} {u : Segment}, ss[k]? = some u → head.stop ≤ u.start :=
      fun found => (rest.mem_bounds (List.mem_of_getElem? found)).1
    cases i with
    | zero =>
      cases first
      cases j with
      | zero => rfl
      | succ j =>
        have := behind second
        omega
    | succ i =>
      cases j with
      | zero =>
        cases second
        have := behind first
        omega
      | succ j => exact congrArg (· + 1) (ih rest first second)

end Tiling

/-! ## Scans -/

namespace Language

/-- A reading tiles the text from where it begins to the end. -/
theorem Reads.tiling {l : Language} {text : List Char} {c : Cursor} {segments : List Segment}
    {state : LineState} (on : c.On text) (reads : l.Reads text c segments state) :
    Tiling text c.offset (byteLength text) segments := by
  induction reads with
  | ended done => exact ⟨on.offset_eq_of_rest done, boundary_byteLength text⟩
  | gap ahead wide _ _ _ ih => exact ⟨rfl, on.boundary, wide, ih (ahead.on on)⟩
  | pattern found _ ih =>
    obtain ⟨reached, wide⟩ := ruleAt?_eq_some found
    exact ⟨rfl, on.boundary, wide, ih (reached.on on)⟩
  | closed found closes _ ih =>
    obtain ⟨reached, wide⟩ := ruleAt?_eq_some found
    have closing := Construct.reaches_of_closeAt? closes
    exact ⟨rfl, on.boundary, Nat.lt_of_lt_of_le wide closing.offset_le,
      ih (closing.on (reached.on on))⟩
  | opened found =>
    obtain ⟨reached, wide⟩ := ruleAt?_eq_some found
    have last := (reached.on on).boundary.le_byteLength
    exact ⟨rfl, on.boundary, Nat.lt_of_lt_of_le wide last, rfl, boundary_byteLength text⟩

theorem scanRest_tiling (l : Language) {text : List Char} {c : Cursor} (on : c.On text) :
    Tiling text c.offset (byteLength text) (l.scanRest c).1 :=
  (scanRest_reads on).tiling on

/-- The construct that the state leaves open closes by an empty match at the start of the line. -/
def ClosesAtOnce (l : Language) (line : String) (prior : LineState) (r : Construct) : Prop :=
  prior.isInside ∧ l.construct? prior.openId = some r ∧
    r.closer.matchAt? (.start line.toList) = some (.start line.toList)

/-- The segments of a line tile it, behind an empty first segment where an open construct closes at
once. -/
theorem scan_tiling (l : Language) {line : String} (filled : line ≠ "") (prior : LineState) :
    Tiling line.toList 0 (byteSize line) (l.scan line prior).1 ∨
      ∃ r rest, l.ClosesAtOnce line prior r ∧ (l.scan line prior).1 = ⟨0, 0, .construct r⟩ :: rest ∧
        Tiling line.toList 0 (byteSize line) rest := by
  have on := Cursor.start_on line.toList
  have wide : 0 < byteSize line :=
    Nat.pos_of_ne_zero fun none => filled (byteSize_eq_zero_iff.mp none)
  have ended : Tiling line.toList (byteSize line) (byteSize line) [] :=
    ⟨rfl, boundary_byteSize line⟩
  unfold scan
  dsimp only
  rw [if_neg (Cursor.not_atEnd_start filled)]
  split
  next inside =>
    split
    next => exact .inl (l.scanRest_tiling on)
    next r known =>
      split
      next => exact .inl ⟨rfl, boundary_zero _, wide, ended⟩
      next close closed =>
        have rest := l.scanRest_tiling ((Construct.reaches_of_closeAt? closed).on on)
        by_cases here : close.offset = 0
        · rw [here] at rest ⊢
          exact .inr ⟨r, _,
            ⟨inside, known, Construct.matchAt?_of_closeAt?_offset closed here⟩, rfl, rest⟩
        · exact .inl ⟨rfl, boundary_zero _, Nat.pos_of_ne_zero here, rest⟩
  next => exact .inl (l.scanRest_tiling on)

end Language

end Highlight
