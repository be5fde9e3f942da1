import Highlight.Language.Registry
import Highlight.Proofs.Language.Walk
import Mathlib.Data.List.Nodup

/-!
# Open constructs are resumed

Between two lines a scan hands on nothing but the id of the construct that is still open. `LeftOpen`
says which construct that is, by what the segments of the line are: the one whose segment comes last
and for which no closing match was found. The state behind a line is the id of the construct left
open, and no id where none is (`scan_state`), so every state that comes up along a document is the
id of a construct of the language or none (`known_stateAfter`).

Where the ids tell the constructs apart, the next line goes on in the very construct that was left
open (`scan_resumes`).
-/

namespace Highlight.Language

/-! ## Ids -/

/-- The ids of the constructs tell them apart, and none of them is the id of no construct. -/
structure DistinctStates (l : Language) : Prop where
  nonzero : ∀ r ∈ l.constructs, r.stateId ≠ 0
  distinct : (l.constructs.map (·.stateId)).Nodup

theorem construct?_eq_some {l : Language} {id : UInt8} {r : Construct}
    (known : l.construct? id = some r) :
    r ∈ l.constructs ∧ r.stateId = id :=
  ⟨List.mem_of_find?_eq_some known, by simpa using List.find?_some known⟩

theorem DistinctStates.construct?_stateId {l : Language} (states : l.DistinctStates) {r : Construct}
    (mem : r ∈ l.constructs) : l.construct? r.stateId = some r := by
  cases known : l.construct? r.stateId with
  | none => exact absurd (List.find?_eq_none.mp known r mem) (by simp)
  | some q =>
    obtain ⟨mem', same⟩ := construct?_eq_some known
    rw [List.inj_on_of_nodup_map states.distinct mem' mem same]

/-- Where the ids tell the constructs apart, a line behind the id of one begins in it. -/
theorem DistinctStates.carried?_stateId {l : Language} (states : l.DistinctStates) {r : Construct}
    (mem : r ∈ l.constructs) : l.carried? ⟨r.stateId⟩ = some r := by
  have inside : LineState.isInside ⟨r.stateId⟩ := by
    simpa [LineState.isInside] using states.nonzero r mem
  rw [carried?, if_pos inside, states.construct?_stateId mem]

theorem carried?_eq_some {l : Language} {prior : LineState} {r : Construct}
    (known : l.carried? prior = some r) :
    r ∈ l.constructs ∧ prior = ⟨r.stateId⟩ := by
  rw [carried?] at known
  split at known
  next =>
    obtain ⟨mem, same⟩ := construct?_eq_some known
    exact ⟨mem, by rw [same]⟩
  next => cases known

theorem opener_of_ruleAt? {l : Language} {c stop : Cursor} {r : Construct}
    (found : l.ruleAt? c = some (.construct r, stop)) :
    r ∈ l.constructs ∧ r.opener.filledAt? c = some stop := by
  obtain ⟨rule, mem, same, filled⟩ := exists_rule_of_ruleAt? found
  cases rule with
  | pattern => cases same
  | construct q =>
    cases same
    refine ⟨?_, filled⟩
    simpa [rules] using mem

/-! ## The state behind a reading -/

section Reading

variable {l : Language} {text : List Char}

/-- The last segment reaches the end of the text and is the construct's, and behind its opening
match there is no closing one. -/
def EndsOpen (text : List Char) (segments : List Segment) (r : Construct) : Prop :=
  ∃ s c stop,
    segments.getLast? = some s ∧ s.stop = byteLength text ∧ s.origin = .construct r ∧ c.On text ∧
    c.offset = s.start ∧ r.opener.filledAt? c = some stop ∧ r.closeAt? stop = none

theorem not_endsOpen_nil (r : Construct) : ¬ EndsOpen text [] r := by
  rintro ⟨_, _, _, last, _⟩
  cases last

/-- Behind a segment that leaves nothing open it is the rest that decides. -/
theorem endsOpen_cons_iff {s : Segment} {segments : List Segment} {r : Construct}
    (shut : ¬ EndsOpen text [s] r) :
    EndsOpen text (s :: segments) r ↔ EndsOpen text segments r := by
  cases segments with
  | nil => exact iff_of_false shut (not_endsOpen_nil r)
  | cons next segments => rw [EndsOpen, EndsOpen, List.getLast?_cons_cons]

theorem not_endsOpen_of_origin {s : Segment} (other : ∀ r, s.origin ≠ .construct r)
    (r : Construct) :
    ¬ EndsOpen text [s] r := by
  rintro ⟨_, _, _, last, _, same, _⟩
  cases last
  exact other r same

/-- A construct that closes leaves nothing open: the cursor at its start is one, and so is the match
there. -/
theorem not_endsOpen_of_closes {c stop close : Cursor} {r : Construct} (on : c.On text)
    (found : l.ruleAt? c = some (.construct r, stop)) (closes : r.closeAt? stop = some close)
    (q : Construct) :
    ¬ EndsOpen text [⟨c.offset, close.offset, .construct r⟩] q := by
  rintro ⟨_, d, stop', last, _, same, on', here, opens, stays⟩
  cases last
  cases same
  obtain rfl := on.eq_of_offset on' here
  have both := (opener_of_ruleAt? found).2.symm.trans opens
  cases both
  rw [stays] at closes
  cases closes

/-- The state behind a reading is that of the construct left open. -/
theorem Reads.state_eq {c : Cursor} {segments : List Segment} {state : LineState} (on : c.On text)
    (reads : l.Reads text c segments state) :
    (state = .normal ∧ ∀ r, ¬ EndsOpen text segments r) ∨
      ∃ r ∈ l.constructs, EndsOpen text segments r ∧ state = ⟨r.stateId⟩ := by
  induction reads with
  | ended => exact .inl ⟨rfl, not_endsOpen_nil⟩
  | @gap c d _ _ ahead _ _ _ _ ih =>
    have shut : ∀ q, ¬ EndsOpen text [⟨c.offset, d.offset, .gap⟩] q :=
      not_endsOpen_of_origin (by simp)
    simp only [endsOpen_cons_iff (shut _)]
    exact ih (ahead.on on)
  | @pattern c stop r _ _ found _ ih =>
    have shut : ∀ q, ¬ EndsOpen text [⟨c.offset, stop.offset, .pattern r⟩] q :=
      not_endsOpen_of_origin (by simp)
    simp only [endsOpen_cons_iff (shut _)]
    exact ih ((ruleAt?_eq_some found).1.on on)
  | closed found closes _ ih =>
    simp only [endsOpen_cons_iff (not_endsOpen_of_closes on found closes _)]
    exact ih ((reaches_of_closes found closes).on on)
  | @opened c stop r found stays =>
    obtain ⟨mem, opens⟩ := opener_of_ruleAt? found
    exact .inr ⟨r, mem, ⟨_, c, stop, rfl, rfl, rfl, on, rfl, opens, stays⟩, rfl⟩

end Reading

/-! ## The state behind a line -/

/-- Where the inside of the last segment's construct begins on a line: at the start of the line, if
the segment is that of the construct that the line begins in, else behind the opening match. -/
inductive InsideFrom (l : Language) (line : String) (prior : LineState) (s : Segment)
    (r : Construct) : Cursor → Prop
  | carried (only : (l.scan line prior).1.length = 1) (known : l.carried? prior = some r) :
      InsideFrom l line prior s r (.start line.toList)
  | opened {c stop : Cursor} (new : (l.scan line prior).1.length = 1 → l.carried? prior = none)
      (on : c.On line.toList) (here : c.offset = s.start)
      (opens : r.opener.filledAt? c = some stop) : InsideFrom l line prior s r stop

/-- The construct is open behind the line: the last segment reaches the end of the line and is the
construct's, and no closing match is found for it. -/
def LeftOpen (l : Language) (line : String) (prior : LineState) (r : Construct) : Prop :=
  ∃ s inside,
    (l.scan line prior).1.getLast? = some s ∧ s.stop = byteSize line ∧ s.origin = .construct r ∧
    l.InsideFrom line prior s r inside ∧ r.closeAt? inside = none

section Line

variable {l : Language} {line : String} {prior : LineState}

/-- Only one construct is open behind a line. -/
theorem LeftOpen.unique {r q : Construct} (first : l.LeftOpen line prior r)
    (second : l.LeftOpen line prior q) :
    r = q := by
  obtain ⟨s, _, last, _, origin, _⟩ := first
  obtain ⟨s', _, last', _, origin', _⟩ := second
  obtain rfl := Option.some.inj (last.symm.trans last')
  exact Origin.construct.inj (origin.symm.trans origin')

/-- Where the last segment is not that of the construct that the line begins in, it was opened on
the line. -/
theorem leftOpen_iff_endsOpen (new : (l.scan line prior).1.length = 1 → l.carried? prior = none)
    {r : Construct} :
    l.LeftOpen line prior r ↔ EndsOpen line.toList (l.scan line prior).1 r := by
  constructor
  · rintro ⟨s, inside, last, reaches, origin, begins, stays⟩
    cases begins with
    | carried only known =>
      rw [new only] at known
      cases known
    | opened _ on here opens => exact ⟨s, _, inside, last, reaches, origin, on, here, opens, stays⟩
  · rintro ⟨s, c, stop, last, reaches, origin, on, here, opens, stays⟩
    exact ⟨s, stop, last, reaches, origin, .opened new on here opens, stays⟩

/-- Where the construct that the line begins in closes, what lies behind it decides. -/
theorem leftOpen_iff_of_closes {r q : Construct} {close : Cursor} {segments : List Segment}
    (known : l.carried? prior = some r) (closes : r.closeAt? (.start line.toList) = some close)
    (scanned : (l.scan line prior).1 = ⟨0, close.offset, .construct r⟩ :: segments) :
    l.LeftOpen line prior q ↔ EndsOpen line.toList segments q := by
  cases segments with
  | nil =>
    refine iff_of_false ?_ (not_endsOpen_nil q)
    rintro ⟨s, inside, -, -, -, begins, stays⟩
    cases begins with
    | carried only known' =>
      obtain rfl := Option.some.inj (known.symm.trans known')
      rw [stays] at closes
      cases closes
    | opened new =>
      rw [new (by rw [scanned]; rfl)] at known
      cases known
  | cons next others =>
    have new : (l.scan line prior).1.length = 1 → l.carried? prior = none := by simp [scanned]
    rw [leftOpen_iff_endsOpen new, scanned, EndsOpen, EndsOpen, List.getLast?_cons_cons]

/-- The state behind a line is that of the construct left open. -/
theorem scan_state (l : Language) {line : String} (filled : line ≠ "") (prior : LineState) :
    ((l.scan line prior).2 = .normal ∧ ∀ r, ¬ l.LeftOpen line prior r) ∨
      ∃ r ∈ l.constructs, l.LeftOpen line prior r ∧ (l.scan line prior).2 = ⟨r.stateId⟩ := by
  have on := Cursor.start_on line.toList
  rcases l.scan_cases filled prior with ⟨none, scanned⟩ |
      ⟨r, known, ⟨stays, scanned⟩ | ⟨close, closes, scanned⟩⟩
  · simp only [leftOpen_iff_endsOpen fun _ => none]
    rw [scanned]
    exact (l.scanRest_reads on).state_eq on
  · obtain ⟨mem, state⟩ := carried?_eq_some known
    have only : (l.scan line prior).1 = [⟨0, byteSize line, .construct r⟩] := by rw [scanned]
    refine .inr ⟨r, mem,
      ⟨_, _, by rw [only]; rfl, rfl, rfl, .carried (by rw [only]; rfl) known, stays⟩, ?_⟩
    rw [scanned]
    exact state
  · have on' := (Construct.reaches_of_closeAt? closes).on on
    have behind := (l.scanRest_reads on').state_eq on'
    have segments : (l.scan line prior).1 =
        ⟨0, close.offset, .construct r⟩ :: (l.scanRest close).1 := by rw [scanned]
    have state : (l.scan line prior).2 = (l.scanRest close).2 := by rw [scanned]
    simp only [leftOpen_iff_of_closes known closes segments, state]
    exact behind

end Line

/-! ## Along a document -/

/-- The state behind lines that are scanned one after the other, the first with no construct
open. -/
def stateAfter (l : Language) (lines : List String) : LineState :=
  lines.foldl (fun prior line => (l.scan line prior).2) .normal

theorem stateAfter_concat (l : Language) (lines : List String) (line : String) :
    l.stateAfter (lines ++ [line]) = (l.scan line (l.stateAfter lines)).2 :=
  List.foldl_concat ..

theorem scan_blank (l : Language) (prior : LineState) : (l.scan "" prior).2 = prior := rfl

/-- The state is no construct's or that of a construct of the language. -/
def Known (l : Language) (state : LineState) : Prop :=
  state = .normal ∨ ∃ r ∈ l.constructs, state = ⟨r.stateId⟩

theorem Known.scan {l : Language} {prior : LineState} (known : l.Known prior) (line : String) :
    l.Known (l.scan line prior).2 := by
  by_cases blank : line = ""
  · rw [blank, scan_blank]
    exact known
  · rcases l.scan_state blank prior with ⟨normal, -⟩ | ⟨r, mem, -, state⟩
    · exact .inl normal
    · exact .inr ⟨r, mem, state⟩

theorem known_stateAfter (l : Language) (lines : List String) : l.Known (l.stateAfter lines) := by
  induction lines using List.reverseRecOn with
  | nil => exact .inl rfl
  | append_singleton lines line ih =>
    rw [stateAfter_concat]
    exact ih.scan line

/-- No known state names a missing construct. -/
theorem Known.isSome_construct? {l : Language} {state : LineState} (known : l.Known state)
    (inside : state.isInside) :
    (l.construct? state.openId).isSome := by
  rcases known with rfl | ⟨r, mem, rfl⟩
  · cases inside
  · rw [construct?, List.find?_isSome]
    exact ⟨r, mem, beq_self_eq_true _⟩

/-- A line that begins in a construct has a segment of it first. -/
theorem head?_scan_of_carried? {l : Language} {line : String} {prior : LineState} {r : Construct}
    (filled : line ≠ "") (known : l.carried? prior = some r) :
    ∃ s, (l.scan line prior).1.head? = some s ∧ s.origin = .construct r := by
  rcases l.scan_cases filled prior with ⟨none, -⟩ | ⟨q, known', ⟨-, scanned⟩ | ⟨close, -, scanned⟩⟩
  · rw [none] at known
    cases known
  · obtain rfl := Option.some.inj (known.symm.trans known')
    rw [scanned]
    exact ⟨_, rfl, rfl⟩
  · obtain rfl := Option.some.inj (known.symm.trans known')
    rw [scanned]
    exact ⟨_, rfl, rfl⟩

/-! ## The built-in languages -/

theorem distinctStates_of_stateIds {l : Language} {ids : List UInt8}
    (same : l.constructs.map (·.stateId) = ids) (nonzero : 0 ∉ ids) (distinct : ids.Nodup) :
    l.DistinctStates where
  nonzero _ mem zero := nonzero (same ▸ zero ▸ List.mem_map_of_mem mem)
  distinct := same ▸ distinct

theorem distinctStates_builtin : ∀ l ∈ [rust, c, python, toml, markdown], l.DistinctStates := by
  have rustIds : rust.constructs.map (·.stateId) = [1, 2, 3] := by
    rw [rust, addRules_eq rfl]
    decide +kernel
  have cIds : c.constructs.map (·.stateId) = [1, 2] := by
    rw [c, addRules_eq rfl]
    decide +kernel
  have pythonIds : python.constructs.map (·.stateId) = [1, 2, 3, 4] := by
    rw [python, addRules_eq rfl]
    decide +kernel
  have tomlIds : toml.constructs.map (·.stateId) = [1, 2, 3, 4] := by
    rw [toml, addRules_eq rfl]
    decide +kernel
  have markdownIds : markdown.constructs.map (·.stateId) = [1] := by
    rw [markdown, addRules_eq rfl]
    decide +kernel
  simp only [List.forall_mem_cons, List.not_mem_nil, false_imp_iff, implies_true, and_true]
  exact ⟨distinctStates_of_stateIds rustIds (by decide) (by decide),
    distinctStates_of_stateIds cIds (by decide) (by decide),
    distinctStates_of_stateIds pythonIds (by decide) (by decide),
    distinctStates_of_stateIds tomlIds (by decide) (by decide),
    distinctStates_of_stateIds markdownIds (by decide) (by decide)⟩

/-- Whatever the rules of a language are, where its ids tell the constructs apart, as those of the
built-in languages do: along every sequence of lines the state before a line names no missing
construct, and the state behind it is no construct's or that of a construct of the language. A
construct's id is the state behind a line exactly where the construct is left open there, and then
the next line begins with a segment of the same construct. -/
theorem scan_resumes :
    (∀ l ∈ [rust, c, python, toml, markdown], l.DistinctStates) ∧
    ∀ l : Language, l.DistinctStates → ∀ (lines : List String) (line : String), line ≠ "" →
      let prior := l.stateAfter lines
      let state := l.stateAfter (lines ++ [line])
      state = (l.scan line prior).2 ∧
        (prior.isInside → (l.construct? prior.openId).isSome) ∧
        (state = .normal ∨ ∃ r ∈ l.constructs, state = ⟨r.stateId⟩) ∧
        (∀ k, state.isInside ∧ state.openId = k ↔
          ∃ r ∈ l.constructs, r.stateId = k ∧ l.LeftOpen line prior r) ∧
        ∀ r next, l.LeftOpen line prior r → next ≠ "" →
          ∃ s, (l.scan next state).1.head? = some s ∧ s.origin = .construct r := by
  refine ⟨distinctStates_builtin, ?_⟩
  intro l states lines line filled prior state
  have step : state = (l.scan line prior).2 := by simp [state, prior, stateAfter]
  -- what is left open is the construct that the state names
  have names {r : Construct} (opened : l.LeftOpen line prior r) :
      r ∈ l.constructs ∧ state = ⟨r.stateId⟩ := by
    rcases l.scan_state filled prior with ⟨-, shut⟩ | ⟨q, mem, opened', same⟩
    · exact absurd opened (shut r)
    · obtain rfl := opened.unique opened'
      exact ⟨mem, step.trans same⟩
  refine ⟨step, (l.known_stateAfter lines).isSome_construct?, l.known_stateAfter _, ?_, ?_⟩
  · intro k
    constructor
    · rintro ⟨inside, rfl⟩
      rcases l.scan_state filled prior with ⟨normal, -⟩ | ⟨r, mem, opened, same⟩
      · rw [step, normal] at inside
        cases inside
      · exact ⟨r, mem, by rw [step, same], opened⟩
    · rintro ⟨r, mem, rfl, opened⟩
      rw [(names opened).2]
      exact ⟨by simpa [LineState.isInside] using states.nonzero r mem, rfl⟩
  · intro r next opened text
    obtain ⟨mem, same⟩ := names opened
    exact head?_scan_of_carried? text (same ▸ states.carried?_stateId mem)

/-- A comment that is opened on the first line, stays open over a second one that holds what opens a
string elsewhere, and goes on on the third. -/
theorem scan_resumes_comment :
    let quote := Pattern.regex (.set (.single '"'))
    let hash := Pattern.regex (.set (.single '#'))
    let string : Construct := ⟨"string", quote, quote, .doubleString, some '\\', 9⟩
    let comment : Construct := ⟨"comment", hash, hash, .blockComment, none, 3⟩
    let l : Language := { Language.new "t" "T" "t" with constructs := [string, comment] }
    l.DistinctStates ∧ l.stateAfter ["a #b"] = ⟨3⟩ ∧ "c\"" ≠ "" ∧ l.LeftOpen "c\"" ⟨3⟩ comment ∧
      l.stateAfter ["a #b", "c\""] = ⟨3⟩ ∧
      ∃ s, (l.scan "d# e" ⟨3⟩).1.head? = some s ∧ s.origin = .construct comment := by
  intro quote hash string comment l
  have ids : l.constructs.map (·.stateId) = [9, 3] := rfl
  have states : l.DistinctStates := distinctStates_of_stateIds ids (by decide) (by decide)
  have before : l.stateAfter ["a #b"] = ⟨3⟩ := by decide +kernel
  have after : l.stateAfter ["a #b", "c\""] = ⟨3⟩ := by decide +kernel
  have stays : comment.closeAt? (.start "c\"".toList) = none :=
    Option.isNone_iff_eq_none.mp (by decide +kernel)
  have opened : l.LeftOpen "c\"" ⟨3⟩ comment := ⟨_, _, rfl, rfl, rfl, .carried rfl rfl, stays⟩
  obtain ⟨-, -, -, -, resumed⟩ := scan_resumes.2 l states ["a #b"] "c\"" (by decide)
  have next := resumed comment "d# e" (before ▸ opened) (by decide)
  rw [List.singleton_append, after] at next
  exact ⟨states, before, by decide, opened, after, next⟩

end Highlight.Language
