import Highlight.Proofs.Language.Tiling
import Mathlib.Data.List.Chain

/-!
# The scan is the greedy reading of its rules

Of a language that was built by adding rules in any order, `GreedyScan` says what the segments of a
line are: they tile the line; a gap is a stretch in which no rule matches; every other segment
starts where a rule matches, belongs to the rule that goes before all others that match there, and
ends with its match, or, for a construct, where it closes. The one exception is the construct that a
line begins in, which comes first whatever matches there.

Each segment of a reading is of one of the two kinds (`Reads.recognised`), with the rule that takes
over at its start; which of the added rules that is comes from their ranking.
-/

namespace Highlight

open LanguageRule (Precedes)

namespace LanguageRule

/-- Where a segment of the rule ends whose leading match ends at the cursor: there, for a pattern
rule; for a construct where it closes, or with the line. -/
def stopBehind (size : Nat) (c : Cursor) : LanguageRule → Nat
  | .construct r => ((r.closeAt? c).map (·.offset)).getD size
  | .pattern _ => c.offset

theorem origin_ne_gap (r : LanguageRule) : r.origin ≠ .gap := by
  cases r <;> nofun

end LanguageRule

namespace Language

/-! ## The segments of a reading -/

section Reading

variable {l : Language} {text : List Char}

/-- How a segment of a text comes about. -/
inductive Recognised (l : Language) (text : List Char) : Segment → Prop
  | gap {start stop : Nat} (quiet : l.Quiet text start stop) : Recognised l text ⟨start, stop, .gap⟩
  | rule {c stop : Cursor} {r : LanguageRule} (on : c.On text)
      (found : l.ruleAt? c = some (r.origin, stop)) :
      Recognised l text ⟨c.offset, r.stopBehind (byteLength text) stop, r.origin⟩

theorem Reads.recognised {c : Cursor} {segments : List Segment} {state : LineState} (on : c.On text)
    (reads : l.Reads text c segments state) : ∀ s ∈ segments, l.Recognised text s := by
  induction reads with
  | ended => exact fun _ mem => nomatch mem
  | gap ahead wide quiet stops rest ih =>
    exact List.forall_mem_cons.mpr ⟨.gap quiet, ih (ahead.on on)⟩
  | @pattern c stop r segments state found rest ih =>
    refine List.forall_mem_cons.mpr ⟨?_, ih ((ruleAt?_eq_some found).1.on on)⟩
    exact Recognised.rule (r := .pattern r) on found
  | @closed c stop close r segments state found closes rest ih =>
    have ends : (LanguageRule.construct r).stopBehind (byteLength text) stop = close.offset := by
      simp [LanguageRule.stopBehind, closes]
    have first := Recognised.rule (r := .construct r) on found
    rw [ends] at first
    exact List.forall_mem_cons.mpr ⟨first, ih ((reaches_of_closes found closes).on on)⟩
  | @opened c stop r found stays =>
    have ends : (LanguageRule.construct r).stopBehind (byteLength text) stop = byteLength text := by
      simp [LanguageRule.stopBehind, stays]
    have only := Recognised.rule (r := .construct r) on found
    rw [ends] at only
    exact List.forall_mem_singleton.mpr only

/-- A reading that begins at the end of the text, or where a rule takes over, begins with no gap. -/
theorem Reads.head_ne_gap {c : Cursor} {segments : List Segment} {state : LineState}
    (on : c.On text) (stops : c.rest = [] ∨ (l.ruleAt? c).isSome)
    (reads : l.Reads text c segments state) :
    ∀ s ∈ segments.head?, s.origin ≠ .gap := by
  cases reads with
  | ended => simp
  | gap ahead wide quiet =>
    rcases stops with done | met
    · have shorter := ahead.rest_length_lt wide
      rw [done] at shorter
      cases shorter
    · rw [quiet c on (Nat.le_refl _) wide] at met
      cases met
  | pattern => simp
  | closed => simp
  | opened => simp

/-- No two gaps of a reading are neighbours. -/
theorem Reads.gaps_apart {c : Cursor} {segments : List Segment} {state : LineState} (on : c.On text)
    (reads : l.Reads text c segments state) :
    segments.IsChain fun s next => s.origin = .gap → next.origin ≠ .gap := by
  induction reads with
  | ended => exact .nil
  | gap ahead wide quiet stops rest ih =>
    have on' := ahead.on on
    exact List.isChain_cons.mpr ⟨fun next mem _ => rest.head_ne_gap on' stops next mem, ih on'⟩
  | pattern found rest ih =>
    exact List.isChain_cons.mpr ⟨(fun _ _ gap => nomatch gap), ih ((ruleAt?_eq_some found).1.on on)⟩
  | closed found closes rest ih =>
    exact List.isChain_cons.mpr ⟨(fun _ _ gap => nomatch gap),
      ih ((reaches_of_closes found closes).on on)⟩
  | opened => exact .singleton _

end Reading

/-! ## The segments of a line -/

/-- The segment of the construct that a line begins in. -/
def carriedSegment (line : String) (r : Construct) : Segment :=
  ⟨0, (LanguageRule.construct r).stopBehind (byteSize line) (.start line.toList), .construct r⟩

/-- Behind the segment of the construct that it begins in, if there is one, a line is read from left
to right. -/
theorem scan_segments (l : Language) {line : String} (filled : line ≠ "") (prior : LineState) :
    ∃ rest, (l.scan line prior).1 = ((l.carried? prior).map (carriedSegment line)).toList ++ rest ∧
      (∀ s ∈ rest, l.Recognised line.toList s) ∧
      rest.IsChain fun s next => s.origin = .gap → next.origin ≠ .gap := by
  have on := Cursor.start_on line.toList
  rcases l.scan_cases filled prior with ⟨none, scanned⟩ |
      ⟨r, known, ⟨stays, scanned⟩ | ⟨close, closes, scanned⟩⟩
  · have reads := l.scanRest_reads on
    rw [scanned, none]
    exact ⟨_, rfl, reads.recognised on, reads.gaps_apart on⟩
  · have shape : carriedSegment line r = ⟨0, byteSize line, .construct r⟩ := by
      simp [carriedSegment, LanguageRule.stopBehind, stays]
    rw [scanned, known, Option.map_some, Option.toList_some, shape]
    exact ⟨[], rfl, (fun _ mem => nomatch mem), .nil⟩
  · have shape : carriedSegment line r = ⟨0, close.offset, .construct r⟩ := by
      simp [carriedSegment, LanguageRule.stopBehind, closes]
    have on' := (Construct.reaches_of_closeAt? closes).on on
    have reads := l.scanRest_reads on'
    rw [scanned, known, Option.map_some, Option.toList_some, shape]
    exact ⟨_, rfl, reads.recognised on', reads.gaps_apart on'⟩

/-- The segments of a line are the greedy reading of the rules that were added to the language. -/
structure GreedyScan (l : Language) (added : List LanguageRule) (line : String)
    (prior : LineState) : Prop where
  /-- The segments lie one behind the other from the start of the line to its end, on boundaries,
  and all hold text, save that the first is empty exactly where the construct that the line begins
  in closes by an empty match there. -/
  tiles : (Tiling line.toList 0 (byteSize line) (l.scan line prior).1 ∧
      ∀ r, ¬ l.ClosesAtOnce line prior r) ∨
    ∃ r rest, l.ClosesAtOnce line prior r ∧ (l.scan line prior).1 = ⟨0, 0, .construct r⟩ :: rest ∧
      Tiling line.toList 0 (byteSize line) rest
  /-- The construct that the line begins in comes first and ends where it closes. -/
  carried : ∀ r, l.carried? prior = some r →
    (l.scan line prior).1.head? = some (carriedSegment line r)
  /-- No rule matches in a gap. -/
  quiet : ∀ s ∈ (l.scan line prior).1, s.origin = .gap →
    ∀ c : Cursor, c.On line.toList → s.start ≤ c.offset → c.offset < s.stop →
      ∀ r ∈ added, r.leading.filledAt? c = none
  /-- Gaps are as long as can be. -/
  apart : (l.scan line prior).1.IsChain fun s next => s.origin = .gap → next.origin ≠ .gap
  /-- Every other segment belongs to the first of the rules that match at its start, and ends with
  it. -/
  first : ∀ i s, (l.scan line prior).1[i]? = some s → s.origin ≠ .gap →
    (i = 0 → l.carried? prior = none) →
    ∃ c stop n r, c.On line.toList ∧ c.offset = s.start ∧ added[n]? = some r ∧ s.origin = r.origin ∧
      r.leading.filledAt? c = some stop ∧ s.stop = r.stopBehind (byteSize line) stop ∧
      ∀ m q, added[m]? = some q → (q.leading.filledAt? c).isSome → m = n ∨ Precedes (r, n) (q, m)

/-- The first segment is empty where the construct that the line begins in closes at once, and
nowhere else. -/
theorem scan_tiles (l : Language) {line : String} (filled : line ≠ "") (prior : LineState) :
    (Tiling line.toList 0 (byteSize line) (l.scan line prior).1 ∧
        ∀ r, ¬ l.ClosesAtOnce line prior r) ∨
      ∃ r rest, l.ClosesAtOnce line prior r ∧ (l.scan line prior).1 = ⟨0, 0, .construct r⟩ :: rest ∧
        Tiling line.toList 0 (byteSize line) rest := by
  rcases l.scan_tiling filled prior with tiling | empty
  · refine .inl ⟨tiling, ?_⟩
    rintro r ⟨inside, known, matched⟩
    have closes := Construct.closeAt?_of_matchAt? (Cursor.not_atEnd_start filled) matched
    obtain ⟨rest, scanned, -⟩ := l.scan_segments filled prior
    have carried : l.carried? prior = some r := by rw [carried?, if_pos inside, known]
    have shape : carriedSegment line r = ⟨0, 0, .construct r⟩ := by
      rw [carriedSegment, LanguageRule.stopBehind, closes]
      rfl
    rw [scanned, carried, Option.map_some, Option.toList_some, shape] at tiling
    exact absurd tiling.2.2.1 (Nat.lt_irrefl 0)
  · exact .inr empty

/-- Whatever rules a language was built from, in whichever order they were added, and whatever
construct a line with text begins in: the scan of the line is the greedy reading of the rules. -/
theorem scan_greedy (l : Language) (added : List LanguageRule) {line : String} (filled : line ≠ "")
    (prior : LineState) : (l.withRules added).GreedyScan added line prior := by
  obtain ⟨rest, scanned, recognised, apart⟩ := (l.withRules added).scan_segments filled prior
  refine ⟨scan_tiles _ filled prior, ?_, ?_, ?_, ?_⟩
  · intro r known
    rw [scanned, known]
    rfl
  · intro s mem gap c on low high r added
    rw [scanned] at mem
    rcases List.mem_append.mp mem with first | later
    · obtain ⟨r, -, rfl⟩ := Option.map_eq_some_iff.mp (Option.mem_toList.mp first)
      cases gap
    · cases recognised s later with
      | gap quiet =>
        exact filledAt?_of_ruleAt?_eq_none (quiet c on low high) (mem_rules_withRules.mpr added)
      | @rule _ _ r => exact absurd gap r.origin_ne_gap
  · rw [scanned]
    cases (l.withRules added).carried? prior with
    | none => exact apart
    | some r => exact List.isChain_cons.mpr ⟨(fun _ _ gap => nomatch gap), apart⟩
  · intro i s held text new
    have later : s ∈ rest := by
      rw [scanned] at held
      cases known : (l.withRules added).carried? prior with
      | none =>
        rw [known] at held
        exact List.mem_of_getElem? held
      | some r =>
        rw [known] at held new
        cases i with
        | zero => cases new rfl
        | succ i => exact List.mem_of_getElem? (l := rest) held
    cases recognised s later with
    | gap => exact absurd rfl text
    | @rule c stop r on found =>
      obtain ⟨n, q, place, same, filled, before⟩ := exists_first_of_ruleAt? found
      obtain rfl := LanguageRule.origin_injective same
      exact ⟨c, stop, n, q, on, rfl, place, rfl, filled, rfl, before⟩

/-- Rules added in mixed order, on a line that begins in a construct which any text closes. The
first segment is empty; `1` goes to the earlier of two rules of one priority although the other one
matches more, `x` to a rule of higher priority that was added last, and `#` opens a construct that
stays open. -/
theorem scan_greedy_mixed :
    let mark c := Pattern.regex (.set (.single c))
    let run set := Pattern.regex (.many (.set set) ⟨1, none, true⟩)
    let digits : PatternRule := ⟨"digits", run .digit, .number, 5⟩
    let note : Construct := ⟨"note", mark '~', Pattern.regex .empty, .blockComment, some '\\', 7⟩
    let words : PatternRule := ⟨"words", run .word, .typeName, 5⟩
    let comment : Construct := ⟨"comment", mark '#', mark '#', .blockComment, none, 3⟩
    let marks : PatternRule := ⟨"marks", mark 'x', .keyword, 9⟩
    let added : List LanguageRule :=
      [.pattern digits, .construct note, .pattern words, .construct comment, .pattern marks]
    let l := (Language.new "t" "T" "t").withRules added
    "1x é#a" ≠ "" ∧ (l.scan "1x é#a" ⟨7⟩).1.map (fun s => (s.start, s.stop)) =
        [(0, 0), (0, 1), (1, 2), (2, 3), (3, 5), (5, 7)] ∧
      (l.scan "1x é#a" ⟨7⟩).2 = ⟨3⟩ ∧ l.GreedyScan added "1x é#a" ⟨7⟩ := by
  intro mark run digits note words comment marks added l
  have sorted : l.patterns = [marks, digits, words] := by
    simp [l, added, withRules, addRule, addPattern, addConstruct, List.mergeSort,
      List.MergeSort.Internal.splitInTwo, digits, words, marks]
  have built : l = { Language.new "t" "T" "t" with
      patterns := [marks, digits, words], constructs := [note, comment] } := by
    rw [← sorted]
    rfl
  refine ⟨by decide, ?_, ?_, scan_greedy _ added (by decide) ⟨7⟩⟩
  · rw [built]
    decide +kernel
  · rw [built]
    decide +kernel

end Language

end Highlight
