import Highlight.Language.Construct

/-!
# Languages and the scan of a line

A language is a list of constructs and a list of pattern rules, the latter by falling priority.
Scanning a line asks every rule for its first match with text, takes the one that starts first, and
goes on behind it. Where several start at one place the rule that was asked first has it: constructs
in the order in which they were added, then pattern rules by priority, in the order in which they
were added where priorities are equal. What lies before a match is a gap. The segments therefore
cover the line without holes or overlaps.

The *line state* remembers a construct that is still open at the end of a line; the next line starts
inside it.
-/

namespace Highlight

/-- The construct that is open between two lines, by its state id; 0 when none is. -/
structure LineState where
  openId : UInt8 := 0
deriving Repr, DecidableEq

namespace LineState

/-- No construct is open. -/
def normal : LineState := {}

/-- A construct is open. -/
def isInside (s : LineState) : Bool := s.openId != 0

end LineState

/-- What a segment of a line was recognised by. -/
inductive Origin where
  | gap
  | pattern (rule : PatternRule)
  | construct (rule : Construct)

/-- A stretch of a line, from byte `start` to byte `stop`. -/
structure Segment where
  start : Nat
  stop : Nat
  origin : Origin

/-- A language: its names and its rules. -/
structure Language where
  id : String
  name : String
  /-- Scope of all text of the language. -/
  scopeName : String
  /-- Last segment of the scopes its rules assign. -/
  suffix : String
  /-- Number of the language in packed words. -/
  number : Nat := 0
  extensions : List String := []
  aliases : List String := []
  /-- By falling priority. -/
  patterns : List PatternRule := []
  constructs : List Construct := []

namespace Language

/-- A language without rules. -/
def new (id name suffix : String) : Language :=
  { id, name, scopeName := "source." ++ suffix, suffix }

/-- Adds a pattern rule behind the others and sorts them by falling priority; rules of one priority
keep their order. -/
def addPattern (l : Language) (rule : PatternRule) : Language :=
  { l with patterns := (l.patterns ++ [rule]).mergeSort fun a b => b.priority ≤ a.priority }

/-- Adds a construct. -/
def addConstruct (l : Language) (rule : Construct) : Language :=
  { l with constructs := l.constructs ++ [rule] }

/-- The written pattern of any of the given words, standing alone. -/
def wholeWords (words : List String) : String := "\\b(" ++ "|".intercalate words ++ ")\\b"

/-- Adds constructs and pattern rules in order; rules whose patterns could not be read are left
out. -/
def addRules (l : Language) (constructs : List (Option Construct))
    (patterns : List (Option PatternRule)) : Language :=
  (patterns.filterMap fun r => r).foldl addPattern
    ((constructs.filterMap fun r => r).foldl addConstruct l)

/-- Scope chain of a segment, from the outermost scope inwards. -/
def chain (l : Language) : Origin → List String
  | .gap => [l.scopeName]
  | .pattern r => [l.scopeName, r.kind.scope l.suffix]
  | .construct r => [l.scopeName, r.kind.scope l.suffix]

/-- The construct with a state id. -/
def construct? (l : Language) (id : UInt8) : Option Construct :=
  l.constructs.find? (·.stateId == id)

/-! ## The next match -/

/-- The better of the best match so far and that of another rule, which has to start before it. -/
def nearer (best : Option (Origin × Found)) (origin : Origin) (found : Option Found) :
    Option (Origin × Found) :=
  match found, best with
  | none, best => best
  | some f, none => some (origin, f)
  | some f, some (o, g) => some (if f.start.offset < g.start.offset then (origin, f) else (o, g))

/-- The match that starts first at or after the cursor, with its rule. -/
def nextMatch? (l : Language) (c : Cursor) : Option (Origin × Found) :=
  let opening :=
    l.constructs.foldl (fun best r => nearer best (.construct r) (r.findOpening? c)) none
  l.patterns.foldl (fun best r => nearer best (.pattern r) (r.find? c)) opening

theorem nearer_eq_some {best : Option (Origin × Found)} {origin o : Origin} {found : Option Found}
    {f : Found} (h : nearer best origin found = some (o, f)) :
    found = some f ∨ best = some (o, f) := by
  unfold nearer at h
  split at h
  next => exact .inr h
  next =>
    cases h
    exact .inl rfl
  next =>
    obtain same := Option.some.inj h
    split at same
    · cases same
      exact .inl rfl
    · cases same
      exact .inr rfl

/-- What holds of every match that is considered holds of the best one. -/
theorem foldl_nearer_eq_some {α : Type} {P : Found → Prop} {origin : α → Origin}
    {find : α → Option Found} (rules : List α) {best : Option (Origin × Found)}
    (known : ∀ o f, best = some (o, f) → P f) (each : ∀ r f, find r = some f → P f)
    {o : Origin} {f : Found}
    (h : rules.foldl (fun best r => nearer best (origin r) (find r)) best = some (o, f)) : P f := by
  induction rules generalizing best with
  | nil => exact known o f h
  | cons r rules ih =>
    refine ih (fun o f kept => ?_) h
    exact (nearer_eq_some kept).elim (each r f) (known o f)

/-- The next match lies at or behind the cursor and holds text. -/
theorem nextMatch?_forward {l : Language} {c : Cursor} {origin : Origin} {found : Found}
    (h : l.nextMatch? c = some (origin, found)) : c.Reaches found.start ∧
      found.start.Reaches found.stop ∧ found.start.offset < found.stop.offset := by
  have filled {p : Regex} {f : Found} (searched : p.searchFilled? c = some f) :
      c.Reaches f.start ∧ f.start.Reaches f.stop ∧ f.start.offset < f.stop.offset := by
    obtain ⟨reached, filled⟩ := Regex.searchFilled?_eq_some searched
    obtain ⟨matched, wide⟩ := Regex.filledAt?_eq_some_iff.mp filled
    exact ⟨reached, p.reaches_of_matchAt? matched, wide⟩
  refine foldl_nearer_eq_some _ (fun o f opening => ?_) (fun _ _ => filled) h
  exact foldl_nearer_eq_some _ (by simp) (fun _ _ => filled) opening

/-- Behind the next match less is left of the line. -/
theorem rest_length_nextMatch? {l : Language} {c : Cursor} {origin : Origin} {found : Found}
    (h : l.nextMatch? c = some (origin, found)) : found.stop.rest.length < c.rest.length := by
  obtain ⟨ahead, reached, wide⟩ := nextMatch?_forward h
  exact Nat.lt_of_lt_of_le (reached.rest_length_lt wide) ahead.rest_length_le

/-! ## The scan -/

/-- The gap between two offsets, if there is one. -/
def gapSegment (start stop : Nat) : List Segment :=
  if start < stop then [⟨start, stop, .gap⟩] else []

/-- Scans on from the cursor. A construct that does not close on the line takes up the rest of
it. -/
def scanRest (l : Language) (c : Cursor) : List Segment × LineState :=
  if c.atEnd then ([], .normal)
  else match _ : l.nextMatch? c with
    | none => ([⟨c.offset, c.offset + byteLength c.rest, .gap⟩], .normal)
    | some (.construct r, found) =>
      let gap := gapSegment c.offset found.start.offset
      match _ : r.closeAt? found.stop with
      | some close =>
        let (segments, state) := l.scanRest close
        (gap ++ ⟨found.start.offset, close.offset, .construct r⟩ :: segments, state)
      | none =>
        (gap ++ [⟨found.start.offset, c.offset + byteLength c.rest, .construct r⟩], ⟨r.stateId⟩)
    | some (origin, found) =>
      let gap := gapSegment c.offset found.start.offset
      let (segments, state) := l.scanRest found.stop
      (gap ++ ⟨found.start.offset, found.stop.offset, origin⟩ :: segments, state)
termination_by c.rest.length
decreasing_by
  · exact Nat.lt_of_le_of_lt (Construct.reaches_of_closeAt? (by assumption)).rest_length_le
      (rest_length_nextMatch? (by assumption))
  · exact rest_length_nextMatch? (by assumption)

/-- The segments of a line that begins in the given state, and the state after it. An open construct
whose closing match comes at once leaves an empty first segment. A state id that no construct has
counts as no open construct. -/
def scan (l : Language) (line : String) (prior : LineState) : List Segment × LineState :=
  let c := Cursor.start line.toList
  if c.atEnd then ([], prior)
  else if prior.isInside then
    match l.construct? prior.openId with
    | none => l.scanRest c
    | some r =>
      match r.closeAt? c with
      | none => ([⟨0, byteLength c.rest, .construct r⟩], prior)
      | some close =>
        let (segments, state) := l.scanRest close
        (⟨0, close.offset, .construct r⟩ :: segments, state)
  else l.scanRest c

end Language

end Highlight
