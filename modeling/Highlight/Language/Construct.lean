import Highlight.Pattern.Regex
import Highlight.Scope.Kind

/-!
# Rules of a language

A language recognises text by two sorts of rule. A *pattern rule* colors what one regex finds on a
line. A *construct* has an opening and a closing regex and may stay open over several lines, as
block comments and strings do; while it is open nothing else is recognised. A construct may name an
escape character: a closing match does not count when an odd number of escape characters stands
directly before it.
-/

namespace Highlight

/-- A rule for text within one line. -/
structure PatternRule where
  name : String
  pattern : Regex
  kind : ScopeKind
  priority : Int

namespace PatternRule

/-- Builds a rule from a written pattern; `none` when the text is no pattern. -/
def compile? (name pattern : String) (kind : ScopeKind) (priority : Int) : Option PatternRule :=
  (Regex.read? pattern).map fun p => ⟨name, p, kind, priority⟩

/-- The first stretch at or after the cursor that the rule colors. -/
def find? (r : PatternRule) (c : Cursor) : Option Found := r.pattern.searchFilled? c

end PatternRule

/-- A rule for text that may stretch over lines. -/
structure Construct where
  name : String
  opener : Regex
  closer : Regex
  kind : ScopeKind
  escape : Option Char
  /-- Tells the constructs of a language apart while they are open; 0 stands for no open
  construct. -/
  stateId : UInt8

namespace Construct

/-- Builds a construct from written patterns; `none` when one of them is no pattern. -/
def compile? (name opener closer : String) (kind : ScopeKind) (stateId : UInt8)
    (escape : Option Char) : Option Construct := do
  let o ← Regex.read? opener
  let c ← Regex.read? closer
  return ⟨name, o, c, kind, escape, stateId⟩

/-- The first stretch at or after the cursor that opens the construct. -/
def findOpening? (r : Construct) (c : Cursor) : Option Found := r.opener.searchFilled? c

/-! ## Where a construct closes -/

/-- Number of escape characters directly before the place `stop`, counted back no further than
`start`. -/
def escapesBefore (escape : Char) (start stop : Cursor) : Nat :=
  let between := stop.before.take (stop.before.length - start.before.length)
  (between.takeWhile (· == escape)).length

/-- The first closing match at or after `place` that is not escaped; escapes are counted back to
`start`. After an escaped match the search goes on behind it. -/
def closeFrom (closer : Regex) (escape : Char) (start place : Cursor) : Option Cursor :=
  if _ : place.atEnd then none
  else match _ : closer.search? place with
    | none => none
    | some found =>
      if escapesBefore escape start found.start % 2 = 0 then some found.stop
      else closeFrom closer escape start found.resume
termination_by place.rest.length
decreasing_by exact Regex.rest_length_resume (by assumption) (by assumption)

/-- Where the open construct closes, reading from the cursor on. At the end of the line it stays
open. -/
def closeAt? (r : Construct) (c : Cursor) : Option Cursor :=
  if c.atEnd then none
  else match r.escape with
    | none => (r.closer.search? c).map (·.stop)
    | some escape => closeFrom r.closer escape c c

/-- The offset just behind the construct that is open at byte `start`. -/
def findClose? (r : Construct) (text : String) (start : Nat) : Option Nat :=
  (r.closeAt? (.seek text.toList start)).map (·.offset)

theorem closeFrom_eq_some {closer : Regex} {escape : Char} {start place close : Cursor}
    (h : closeFrom closer escape start place = some close) :
    ∃ opened, place.Reaches opened ∧ closer.matchAt? opened = some close := by
  fun_induction closeFrom closer escape start place with
  | case1 => cases h
  | case2 => cases h
  | case3 place text found searched =>
    cases h
    exact ⟨found.start, Regex.search?_eq_some searched⟩
  | case4 place text found searched odd ih =>
    obtain ⟨opened, onward, matched⟩ := ih h
    exact ⟨opened, (Regex.reaches_resume searched).trans onward, matched⟩

/-- A construct closes where a closing match ends. -/
theorem closeAt?_eq_some {r : Construct} {c close : Cursor} (h : r.closeAt? c = some close) :
    ∃ opened, c.Reaches opened ∧ r.closer.matchAt? opened = some close := by
  unfold closeAt? at h
  split at h
  · cases h
  · split at h
    · obtain ⟨found, searched, rfl⟩ := Option.map_eq_some_iff.mp h
      exact ⟨found.start, Regex.search?_eq_some searched⟩
    · exact closeFrom_eq_some h

theorem reaches_of_closeAt? {r : Construct} {c close : Cursor} (h : r.closeAt? c = some close) :
    c.Reaches close := by
  obtain ⟨opened, reached, matched⟩ := closeAt?_eq_some h
  exact reached.trans (r.closer.reaches_of_matchAt? matched)

end Construct

end Highlight
