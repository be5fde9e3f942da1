import Highlight.Proofs.Language.Ranking

/-!
# What a scan does, step by step

`Reads` says what reading on from a place of a line may lead to: a gap up to the next place where a
rule takes over or to the end of the line, the match of a pattern rule, a construct that closes on
the line, or one that does not. The scan of the rest of a line is such a reading (`scanRest_reads`),
so what holds of readings, by induction on them, holds of every scan.

`scan_cases` adds the start of a line: a construct left open by the line before is read first, if
there is one.
-/

namespace Highlight

/-! ## Closing matches -/

namespace Construct

/-- A construct that closes where it is read from does so by an empty closing match. -/
theorem matchAt?_of_closeAt?_offset {r : Construct} {c close : Cursor}
    (h : r.closeAt? c = some close) (here : close.offset = c.offset) :
    r.closer.matchAt? c = some c := by
  have same : close = c := (reaches_of_closeAt? h).eq_of_offset here
  obtain ⟨opened, reached, matched⟩ := closeAt?_eq_some h
  have low := reached.offset_le
  have high := (r.closer.reaches_of_matchAt? matched).offset_le
  have start : opened = c := reached.eq_of_offset (by omega)
  rw [start, same] at matched
  exact matched

/-- An empty closing match at the cursor closes the construct there: no escape character stands
before it. -/
theorem closeAt?_of_matchAt? {r : Construct} {c : Cursor} (text : ¬ c.atEnd)
    (matched : r.closer.matchAt? c = some c) : r.closeAt? c = some c := by
  have searched : r.closer.search? c = some ⟨c, c⟩ := by
    obtain ⟨before, rest, offset⟩ := c
    cases rest with
    | nil => exact absurd rfl text
    | cons ch rest => rw [Regex.search?, Regex.searchFrom, matched]
  unfold closeAt?
  rw [if_neg text]
  split
  next => rw [searched]; rfl
  next escape _ =>
    have bare : escapesBefore escape c c = 0 := by simp [escapesBefore]
    rw [closeFrom, dif_neg text]
    split
    next none => cases searched.symm.trans none
    next found searched' =>
      obtain rfl := Option.some.inj (searched.symm.trans searched')
      simp only [bare, Nat.zero_mod, if_true]

end Construct

namespace Language

/-- A rule matches forward from the cursor, and not only the empty text. -/
theorem ruleAt?_eq_some {l : Language} {c stop : Cursor} {origin : Origin}
    (h : l.ruleAt? c = some (origin, stop)) : c.Reaches stop ∧ c.offset < stop.offset := by
  obtain ⟨r, -, -, filled⟩ := exists_rule_of_ruleAt? h
  obtain ⟨matched, wide⟩ := Regex.filledAt?_eq_some_iff.mp filled
  exact ⟨r.leading.reaches_of_matchAt? matched, wide⟩

/-! ## Readings -/

variable {l : Language} {text : List Char}

/-- No rule takes over at a place of the text from byte `start` on that lies before byte `stop`. -/
def Quiet (l : Language) (text : List Char) (start stop : Nat) : Prop :=
  ∀ c : Cursor, c.On text → start ≤ c.offset → c.offset < stop → l.ruleAt? c = none

/-- Reading the text on from the cursor leads to these segments and this state. -/
inductive Reads (l : Language) (text : List Char) : Cursor → List Segment → LineState → Prop
  | ended {c : Cursor} (done : c.rest = []) : Reads l text c [] .normal
  | gap {c d : Cursor} {segments : List Segment} {state : LineState} (ahead : c.Reaches d)
      (wide : c.offset < d.offset) (quiet : l.Quiet text c.offset d.offset)
      (stops : d.rest = [] ∨ (l.ruleAt? d).isSome) (rest : Reads l text d segments state) :
      Reads l text c (⟨c.offset, d.offset, .gap⟩ :: segments) state
  | pattern {c stop : Cursor} {r : PatternRule} {segments : List Segment} {state : LineState}
      (found : l.ruleAt? c = some (.pattern r, stop)) (rest : Reads l text stop segments state) :
      Reads l text c (⟨c.offset, stop.offset, .pattern r⟩ :: segments) state
  | closed {c stop close : Cursor} {r : Construct} {segments : List Segment} {state : LineState}
      (found : l.ruleAt? c = some (.construct r, stop)) (closes : r.closeAt? stop = some close)
      (rest : Reads l text close segments state) :
      Reads l text c (⟨c.offset, close.offset, .construct r⟩ :: segments) state
  | opened {c stop : Cursor} {r : Construct} (found : l.ruleAt? c = some (.construct r, stop))
      (stays : r.closeAt? stop = none) :
      Reads l text c [⟨c.offset, byteLength text, .construct r⟩] ⟨r.stateId⟩

/-- A quiet stretch before the place where a reading begins is a gap in front of its segments, or
nothing. -/
theorem Reads.behind_gap {start c : Cursor} {segments : List Segment} {state : LineState}
    (ahead : start.Reaches c) (quiet : l.Quiet text start.offset c.offset)
    (stops : c.rest = [] ∨ (l.ruleAt? c).isSome) (reads : l.Reads text c segments state) :
    l.Reads text start (gapSegment start.offset c.offset ++ segments) state := by
  unfold gapSegment
  split
  next wide => exact .gap ahead wide quiet stops reads
  next narrow =>
    have same : c = start := ahead.eq_of_offset (by have := ahead.offset_le; omega)
    subst same
    exact reads

theorem rest_length_of_ruleAt? {c stop : Cursor} {origin : Origin}
    (found : l.ruleAt? c = some (origin, stop)) :
    stop.rest.length < c.rest.length := by
  obtain ⟨reached, wide⟩ := ruleAt?_eq_some found
  exact reached.rest_length_lt wide

/-- A construct closes further on than it opens. -/
theorem reaches_of_closes {c stop close : Cursor} {r : Construct}
    (found : l.ruleAt? c = some (.construct r, stop)) (closes : r.closeAt? stop = some close) :
    c.Reaches close :=
  (ruleAt?_eq_some found).1.trans (Construct.reaches_of_closeAt? closes)

/-- Where no rule takes over any more, all that is left is a gap. -/
theorem reads_gap {c : Cursor} (on : c.On text) (more : ¬ c.atEnd)
    (nothing : l.nextMatch? c = none) :
    l.Reads text c [⟨c.offset, c.offset + byteLength c.rest, .gap⟩] .normal := by
  let last : Cursor := ⟨c.rest.reverse ++ c.before, [], c.offset + byteLength c.rest⟩
  have ahead : c.Reaches last := ⟨c.rest, (List.append_nil _).symm, rfl, rfl⟩
  have wide : c.offset < last.offset :=
    Nat.lt_add_of_pos_right (byteLength_pos (mt Cursor.atEnd_iff.mpr more))
  refine Reads.gap (d := last) ahead wide (fun d on' low _ => ?_) (.inl rfl) (.ended rfl)
  exact ruleAt?_of_nextMatch?_eq_none nothing (on.reaches on' low)

/-- The next match stands behind a gap, or where the reading begins. -/
theorem Reads.behind_next {c : Cursor} {origin : Origin} {found : Found} {segments : List Segment}
    {state : LineState} (on : c.On text) (next : l.nextMatch? c = some (origin, found))
    (reads : l.Reads text found.start segments state) :
    l.Reads text c (gapSegment c.offset found.start.offset ++ segments) state := by
  obtain ⟨taken, quiet⟩ := nextMatch?_eq_some next
  refine .behind_gap (nextMatch?_forward next).1 (fun d on' low => ?_) (.inr ?_) reads
  · exact quiet d (on.reaches on' low)
  · rw [taken]
    rfl

theorem on_of_nextMatch? {c : Cursor} {origin : Origin} {found : Found} (on : c.On text)
    (next : l.nextMatch? c = some (origin, found)) : found.stop.On text := by
  obtain ⟨ahead, reached, -⟩ := nextMatch?_forward next
  exact (ahead.trans reached).on on

/-- Scanning on from a cursor reads the text from there. -/
theorem scanRest_reads {c : Cursor} (on : c.On text) :
    l.Reads text c (l.scanRest c).1 (l.scanRest c).2 := by
  fun_induction scanRest l c with
  | case1 c ended => exact .ended (Cursor.atEnd_iff.mp ended)
  | case2 c more nothing => exact reads_gap on more nothing
  | case3 c more r found next gap close closes segments state scanned ih =>
    have rest := ih ((Construct.reaches_of_closeAt? closes).on (on_of_nextMatch? on next))
    rw [scanned] at rest
    exact .behind_next on next (.closed (nextMatch?_eq_some next).1 closes rest)
  | case4 c more r found next gap stays =>
    rw [on.offset_add_rest]
    exact .behind_next on next (.opened (nextMatch?_eq_some next).1 stays)
  | case5 c more origin found plain next gap segments state scanned ih =>
    have rest := ih (on_of_nextMatch? on next)
    rw [scanned] at rest
    have taken := (nextMatch?_eq_some next).1
    obtain ⟨rule, -, rfl, -⟩ := exists_rule_of_ruleAt? taken
    cases rule with
    | construct r => exact (plain r rfl).elim
    | pattern r => exact .behind_next on next (.pattern taken rest)

/-! ## Lines -/

/-- The construct that a line begins in. -/
def carried? (l : Language) (prior : LineState) : Option Construct :=
  if prior.isInside then l.construct? prior.openId else none

/-- A line with text is read from its start, or from where the construct that it begins in closes;
where that does not close, it takes up the line, and the state stays. -/
theorem scan_cases (l : Language) {line : String} (filled : line ≠ "") (prior : LineState) :
    let start := Cursor.start line.toList
    (l.carried? prior = none ∧ l.scan line prior = l.scanRest start) ∨
      ∃ r, l.carried? prior = some r ∧
        ((r.closeAt? start = none ∧
          l.scan line prior = ([⟨0, byteSize line, .construct r⟩], prior)) ∨
          ∃ close, r.closeAt? start = some close ∧
            l.scan line prior =
              (⟨0, close.offset, .construct r⟩ :: (l.scanRest close).1, (l.scanRest close).2)) := by
  intro start
  unfold scan carried?
  dsimp only
  rw [if_neg (Cursor.not_atEnd_start filled)]
  split
  next =>
    split
    next unknown => exact .inl ⟨unknown, rfl⟩
    next r known =>
      refine .inr ⟨r, known, ?_⟩
      split
      next stays => exact .inl ⟨stays, rfl⟩
      next close closes => exact .inr ⟨close, closes, rfl⟩
  next => exact .inl ⟨rfl, rfl⟩

end Language

end Highlight
