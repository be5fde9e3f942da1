import Highlight.Language.Bound
import Highlight.Proofs.Language.Tiling
import Highlight.Token.Line
import Mathlib.Algebra.Ring.Nat
import Mathlib.Data.List.Chain

/-!
# The packed answer agrees with the tokens

A bound language answers for a line twice: with one token per segment and with packed words, where
neighbouring segments of one look are merged. The two answers agree (`words_agree_with_tokens`):
they lead to the same state, and the word that the packed answer has for a byte is the word of the
rule whose token holds that byte.

Packing carries the word of the last pair along. The lemmas about `packFrom` are therefore stated
for any word carried in, and the word at a byte is read from the pairs or, before the first of them,
from the word carried in (`wordAt?_pairsFrom`).
-/

namespace Highlight

/-! ## Reading pairs by position -/

/-- The word of the last pair that starts at or before a byte. -/
def wordAt? (pairs : List (Nat × UInt32)) (p : Nat) : Option UInt32 :=
  (pairs.filter (·.1 ≤ p)).getLast?.map (·.2)

theorem wordAt?_cons_of_le {pairs : List (Nat × UInt32)} {start p : Nat} {word : UInt32}
    (reached : start ≤ p) :
    wordAt? ((start, word) :: pairs) p = (wordAt? pairs p).or (some word) := by
  unfold wordAt?
  rw [List.filter_cons_of_pos (by simpa using reached), List.getLast?_cons]
  cases (pairs.filter (·.1 ≤ p)).getLast? <;> rfl

theorem wordAt?_eq_none {pairs : List (Nat × UInt32)} {p : Nat}
    (ahead : ∀ pair ∈ pairs, p < pair.1) :
    wordAt? pairs p = none := by
  have none : pairs.filter (·.1 ≤ p) = [] := by
    apply List.filter_eq_nil_iff.mpr
    intro pair mem
    have := ahead pair mem
    simp only [decide_eq_true_eq]
    omega
  unfold wordAt?
  rw [none]
  rfl

namespace BoundLanguage

variable (b : BoundLanguage)

/-! ## Packing segments behind a word -/

/-- The pairs of the packed segments behind a word. -/
def pairsFrom (last : Option UInt32) (segments : List Segment) : List (Nat × UInt32) :=
  wordPairs (b.packFrom last segments)

@[simp] theorem pairsFrom_nil (last : Option UInt32) : b.pairsFrom last [] = [] := rfl

/-- A segment adds a pair unless it looks like what is before it; either way its word is carried
on. -/
theorem pairsFrom_cons (last : Option UInt32) {s : Segment} (ss : List Segment)
    (short : s.start < 2 ^ 32) :
    b.pairsFrom last (s :: ss) =
      (if last = some (b.word s.origin) then [] else [(s.start, b.word s.origin)]) ++
        b.pairsFrom (some (b.word s.origin)) ss := by
  unfold pairsFrom
  rw [packFrom]
  split
  next same => rw [same, List.nil_append]
  next => rw [wordPairs, UInt32.toNat_ofNat_of_lt' short, List.singleton_append]

theorem packFrom_length_even (last : Option UInt32) (segments : List Segment) :
    (b.packFrom last segments).length % 2 = 0 := by
  induction segments generalizing last with
  | nil => rfl
  | cons s ss ih =>
    rw [packFrom]
    split
    next => exact ih last
    next =>
      have := ih (some (b.word s.origin))
      simp only [List.length_cons]
      omega

/-- Every pair starts where a segment starts. -/
theorem exists_segment_of_mem_pairsFrom_of_lt {segments : List Segment}
    (short : ∀ s ∈ segments, s.start < 2 ^ 32) (last : Option UInt32) {pair : Nat × UInt32}
    (mem : pair ∈ b.pairsFrom last segments) :
    ∃ s ∈ segments, s.start = pair.1 := by
  induction segments generalizing last with
  | nil => cases mem
  | cons s ss ih =>
    rw [b.pairsFrom_cons last ss (short s List.mem_cons_self)] at mem
    rcases List.mem_append.mp mem with here | later
    · split at here
      · cases here
      · rw [List.mem_singleton.mp here]
        exact ⟨s, List.mem_cons_self, rfl⟩
    · obtain ⟨t, mem, first⟩ := ih (fun t mem => short t (List.mem_cons_of_mem _ mem)) _ later
      exact ⟨t, List.mem_cons_of_mem _ mem, first⟩

section Tiled

variable {text : List Char} {start stop : Nat} {segments : List Segment}

/-- No pair repeats the word before it, which for the first pair is the word carried in. -/
theorem pairsFrom_words_isChain (tiling : Tiling text start stop segments) (short : stop < 2 ^ 32)
    (last : Option UInt32) :
    (last.toList ++ (b.pairsFrom last segments).map Prod.snd).IsChain (· ≠ ·) := by
  induction segments generalizing start last with
  | nil => cases last <;> simp
  | cons s ss ih =>
    have bounds := tiling.mem_bounds List.mem_cons_self
    obtain ⟨-, -, -, rest⟩ := tiling
    have chain := ih rest (some (b.word s.origin))
    rw [b.pairsFrom_cons last ss (by omega)]
    split
    next same =>
      rw [same]
      exact chain
    next new =>
      cases last with
      | none => exact chain
      | some word =>
        refine List.isChain_cons_cons.mpr ⟨?_, chain⟩
        intro equal
        exact new (congrArg some equal)

theorem exists_segment_of_mem_pairsFrom (tiling : Tiling text start stop segments)
    (short : stop < 2 ^ 32) (last : Option UInt32) {pair : Nat × UInt32}
    (mem : pair ∈ b.pairsFrom last segments) :
    ∃ s ∈ segments, s.start = pair.1 := by
  apply b.exists_segment_of_mem_pairsFrom_of_lt ?_ last mem
  intro s mem
  have bounds := tiling.mem_bounds mem
  omega

theorem pairsFrom_boundary (tiling : Tiling text start stop segments) (short : stop < 2 ^ 32)
    (last : Option UInt32) {pair : Nat × UInt32} (mem : pair ∈ b.pairsFrom last segments) :
    Boundary text pair.1 := by
  obtain ⟨s, mem, first⟩ := b.exists_segment_of_mem_pairsFrom tiling short last mem
  rw [← first]
  exact tiling.mem_boundary mem

theorem pairsFrom_start_le (tiling : Tiling text start stop segments) (short : stop < 2 ^ 32)
    (last : Option UInt32) {pair : Nat × UInt32} (mem : pair ∈ b.pairsFrom last segments) :
    start ≤ pair.1 := by
  obtain ⟨s, mem, first⟩ := b.exists_segment_of_mem_pairsFrom tiling short last mem
  rw [← first]
  exact (tiling.mem_bounds mem).1

/-- Pairs of segments that hold text start further and further right. -/
theorem pairsFrom_starts_pairwise (tiling : Tiling text start stop segments) (short : stop < 2 ^ 32)
    (last : Option UInt32) : ((b.pairsFrom last segments).map Prod.fst).Pairwise (· < ·) := by
  induction segments generalizing start last with
  | nil => exact .nil
  | cons s ss ih =>
    have bounds := tiling.mem_bounds List.mem_cons_self
    obtain ⟨-, -, filled, rest⟩ := tiling
    have ordered := ih rest (some (b.word s.origin))
    rw [b.pairsFrom_cons last ss (by omega)]
    split
    next => exact ordered
    next =>
      rw [List.singleton_append, List.map_cons]
      refine List.pairwise_cons.mpr ⟨?_, ordered⟩
      intro n mem
      obtain ⟨pair, found, rfl⟩ := List.mem_map.mp mem
      have := b.pairsFrom_start_le rest short _ found
      omega

/-- The word at a byte is that of the segment around it. Before the first pair the word carried in
holds. -/
theorem wordAt?_pairsFrom (tiling : Tiling text start stop segments) (short : stop < 2 ^ 32)
    (last : Option UInt32) {s : Segment} (mem : s ∈ segments) {p : Nat} (low : s.start ≤ p)
    (high : p < s.stop) :
    (wordAt? (b.pairsFrom last segments) p).or last = some (b.word s.origin) := by
  induction segments generalizing start last with
  | nil => cases mem
  | cons first ss ih =>
    have bounds := tiling.mem_bounds List.mem_cons_self
    obtain ⟨-, -, -, rest⟩ := tiling
    -- whatever stands before the rest, the word of the first segment is what the rest continues
    have carried : (wordAt? (b.pairsFrom last (first :: ss)) p).or last =
        (wordAt? (b.pairsFrom (some (b.word first.origin)) ss) p).or
          (some (b.word first.origin)) := by
      have reached : first.start ≤ p := by
        rcases List.mem_cons.mp mem with rfl | later
        · exact low
        · have := (rest.mem_bounds later).1
          omega
      rw [b.pairsFrom_cons last ss (by omega)]
      split
      next same => rw [same, List.nil_append]
      next =>
        rw [List.singleton_append, wordAt?_cons_of_le reached, Option.or_assoc, Option.some_or]
    rw [carried]
    rcases List.mem_cons.mp mem with rfl | later
    · have ahead : ∀ pair ∈ b.pairsFrom (some (b.word s.origin)) ss, p < pair.1 := by
        intro pair mem
        have := b.pairsFrom_start_le rest short _ mem
        omega
      rw [wordAt?_eq_none ahead, Option.none_or]
    · exact ih rest _ later

end Tiled

/-! ## The two answers for a line -/

/-- The token of a segment. -/
def scopedToken (s : Segment) : ScopedToken := ⟨s.start, s.stop, b.language.chain s.origin⟩

/-- What the packed answer for a line has to do with the scoped tokens of the line. -/
structure LineAgreement (line : String) (prior : Option LineState) : Prop where
  /-- Both answers lead to the same state. -/
  state : (b.grammar.words line prior).2 = (b.grammar.tokens line prior).2
  /-- Every byte lies in exactly one token, and its word is that of the rule behind this token. -/
  look : ∀ p < byteSize line, ∃ (i : Nat) (s : Segment),
    (b.language.scan line (prior.getD .normal)).1[i]? = some s ∧
    (b.grammar.tokens line prior).1[i]? = some (b.scopedToken s) ∧ s.start ≤ p ∧ p < s.stop ∧
    (∀ (j : Nat) (t : ScopedToken), (b.grammar.tokens line prior).1[j]? = some t → t.start ≤ p →
      p < t.stop → j = i) ∧
    wordAt? (wordPairs (b.grammar.words line prior).1) p = some (b.word s.origin)
  /-- No word of the answer lacks a partner. -/
  even : (b.grammar.words line prior).1.length % 2 = 0
  /-- The first pair starts the line. -/
  first : (wordPairs (b.grammar.words line prior).1).head?.map Prod.fst = some 0
  /-- No pair starts before the pair in front of it. -/
  ordered : ((wordPairs (b.grammar.words line prior).1).map Prod.fst).Pairwise (· ≤ ·)
  /-- Two pairs share a start only at 0 and only where an open construct closes at once. -/
  strict : ((wordPairs (b.grammar.words line prior).1).map Prod.fst).Pairwise (· < ·) ∨
    ∃ r rest, b.language.ClosesAtOnce line (prior.getD .normal) r ∧
      (wordPairs (b.grammar.words line prior).1).map Prod.fst = 0 :: 0 :: rest ∧
      (0 :: rest).Pairwise (· < ·)
  /-- Every pair starts where a token starts. -/
  starts : ∀ pair ∈ wordPairs (b.grammar.words line prior).1,
    ∃ t ∈ (b.grammar.tokens line prior).1, t.start = pair.1
  /-- Neighbouring pairs look different. -/
  distinct : ((wordPairs (b.grammar.words line prior).1).map Prod.snd).IsChain (· ≠ ·)

section Line

variable {b} {line : String} {prior : Option LineState} {segments : List Segment}

theorem grammar_tokens (scanned : (b.language.scan line (prior.getD .normal)).1 = segments)
    (filled : segments ≠ []) : (b.grammar.tokens line prior).1 = segments.map b.scopedToken := by
  show b.scopedTokens (b.language.scan line (prior.getD .normal)).1 = _
  rw [scanned, scopedTokens, if_neg (by simpa using filled)]
  rfl

theorem grammar_words (scanned : (b.language.scan line (prior.getD .normal)).1 = segments)
    (filled : segments ≠ []) : (b.grammar.words line prior).1 = b.packFrom none segments := by
  show b.packedWords (b.language.scan line (prior.getD .normal)).1 = _
  rw [scanned, packedWords, if_neg (by simpa using filled)]

/-- The pairs of a line: the first starts the line, the others follow in order, and all start on
boundaries. -/
theorem exists_wordPairs (filled : line ≠ "") (short : byteSize line < 2 ^ 32)
    (prior : Option LineState) :
    ∃ word pairs, wordPairs (b.grammar.words line prior).1 = (0, word) :: pairs ∧
      (((0, word) :: pairs).map Prod.fst).Pairwise (· ≤ ·) ∧
      ∀ pair ∈ (0, word) :: pairs, Boundary line.toList pair.1 := by
  -- the first segment starts at 0 and tells the first word; what follows it tiles the line from
  -- some offset on
  obtain ⟨first, segments, offset, scanned, start, tiling⟩ : ∃ first segments offset,
      (b.language.scan line (prior.getD .normal)).1 = first :: segments ∧ first.start = 0 ∧
        Tiling line.toList offset (byteSize line) segments := by
    rcases b.language.scan_tiling filled (prior.getD .normal) with tiling |
        ⟨r, rest, _, scanned, tiling⟩
    · cases scanned : (b.language.scan line (prior.getD .normal)).1 with
      | nil =>
        rw [scanned] at tiling
        exact absurd (byteSize_eq_zero_iff.mp tiling.1.symm) filled
      | cons first segments =>
        rw [scanned] at tiling
        obtain ⟨start, -, -, rest⟩ := tiling
        exact ⟨first, segments, _, rfl, start, rest⟩
    · exact ⟨_, rest, 0, scanned, rfl, tiling⟩
  have pairs : wordPairs (b.grammar.words line prior).1 =
      (0, b.word first.origin) :: b.pairsFrom (some (b.word first.origin)) segments := by
    rw [grammar_words scanned (List.cons_ne_nil _ _), ← start]
    exact (b.pairsFrom_cons none segments (by omega)).trans
      (by rw [if_neg (by simp), List.singleton_append])
  have strict := b.pairsFrom_starts_pairwise tiling short (some (b.word first.origin))
  refine ⟨_, _, pairs, List.pairwise_cons.mpr ⟨fun n _ => Nat.zero_le n, strict.imp Nat.le_of_lt⟩,
    ?_⟩
  intro pair mem
  rcases List.mem_cons.mp mem with rfl | later
  · exact boundary_zero _
  · exact b.pairsFrom_boundary tiling short _ later

/-- The token around a byte and its word, for segments that tile the line behind some empty ones.
`last` is the word that those leave behind. -/
private theorem look_of_tiling (lead rest : List Segment) (last : Option UInt32)
    (scanned : (b.language.scan line (prior.getD .normal)).1 = lead ++ rest)
    (blank : ∀ s ∈ lead, s.stop = 0) (tiling : Tiling line.toList 0 (byteSize line) rest)
    (short : byteSize line < 2 ^ 32)
    (read : ∀ p,
      wordAt? (b.pairsFrom none (lead ++ rest)) p = (wordAt? (b.pairsFrom last rest) p).or last)
    {p : Nat} (inside : p < byteSize line) :
    ∃ (i : Nat) (s : Segment), (b.language.scan line (prior.getD .normal)).1[i]? = some s ∧
      (b.grammar.tokens line prior).1[i]? = some (b.scopedToken s) ∧ s.start ≤ p ∧ p < s.stop ∧
      (∀ (j : Nat) (t : ScopedToken),
        (b.grammar.tokens line prior).1[j]? = some t → t.start ≤ p → p < t.stop → j = i) ∧
      wordAt? (wordPairs (b.grammar.words line prior).1) p = some (b.word s.origin) := by
  obtain ⟨i, s, found, bounds⟩ := tiling.exists_index (Nat.zero_le p) inside
  have mem := List.mem_of_getElem? found
  have filled : lead ++ rest ≠ [] := List.append_ne_nil_of_right_ne_nil _ (List.ne_nil_of_mem mem)
  have placed : (lead ++ rest)[lead.length + i]? = some s := by
    rw [List.getElem?_append_right (Nat.le_add_right _ _), Nat.add_sub_cancel_left]
    exact found
  rw [grammar_tokens scanned filled, grammar_words scanned filled, scanned]
  refine ⟨lead.length + i, s, placed, ?_, bounds.1, bounds.2, ?_, ?_⟩
  · rw [List.getElem?_map, placed]
    rfl
  · intro j t held low high
    rw [List.getElem?_map] at held
    obtain ⟨u, found', rfl⟩ := Option.map_eq_some_iff.mp held
    by_cases early : j < lead.length
    · rw [List.getElem?_append_left early] at found'
      have empty := blank u (List.mem_of_getElem? found')
      simp only [scopedToken] at high
      omega
    · rw [List.getElem?_append_right (by omega)] at found'
      have same := tiling.index_unique found' found ⟨low, high⟩ bounds
      omega
  · show wordAt? (b.pairsFrom none (lead ++ rest)) p = _
    rw [read]
    exact b.wordAt?_pairsFrom tiling short last mem bounds.1 bounds.2

/-- The answers agree when the segments tile the line. -/
private theorem agreement_of_tiling (text : line ≠ "") (short : byteSize line < 2 ^ 32)
    (scanned : (b.language.scan line (prior.getD .normal)).1 = segments)
    (tiling : Tiling line.toList 0 (byteSize line) segments) : b.LineAgreement line prior := by
  have filled : segments ≠ [] := by
    rintro rfl
    exact text (byteSize_eq_zero_iff.mp tiling.1.symm)
  obtain ⟨_, _, shape, ordered, _⟩ := b.exists_wordPairs text short prior
  have tokens := grammar_tokens scanned filled
  have words := grammar_words scanned filled
  have pairs : wordPairs (b.grammar.words line prior).1 = b.pairsFrom none segments :=
    congrArg wordPairs words
  have strict := b.pairsFrom_starts_pairwise tiling short none
  refine ⟨rfl, ?_, ?_, ?_, ?_, ?_, ?_, ?_⟩
  · intro p inside
    exact look_of_tiling [] segments none scanned (by simp) tiling short (by simp) inside
  · rw [words]
    exact b.packFrom_length_even none _
  · rw [shape]
    rfl
  · rw [shape]
    exact ordered
  · rw [pairs]
    exact .inl strict
  · rw [pairs, tokens]
    intro pair mem
    obtain ⟨t, found, first⟩ := b.exists_segment_of_mem_pairsFrom tiling short none mem
    exact ⟨b.scopedToken t, List.mem_map_of_mem found, first⟩
  · rw [pairs]
    exact b.pairsFrom_words_isChain tiling short none

/-- Behind an empty segment at the start, the next pair starts there as well or further on. -/
theorem pairwise_zero_cons {starts : List Nat} (strict : starts.Pairwise (· < ·)) :
    (0 :: starts).Pairwise (· < ·) ∨ ∃ rest, starts = 0 :: rest := by
  cases starts with
  | nil => exact .inl (List.pairwise_singleton _ _)
  | cons n rest =>
    by_cases here : n = 0
    · exact .inr ⟨rest, by rw [here]⟩
    · refine .inl (List.pairwise_cons.mpr ⟨?_, strict⟩)
      intro m mem
      rcases List.mem_cons.mp mem with rfl | later
      · omega
      · have := (List.pairwise_cons.mp strict).1 m later
        omega

/-- The answers agree when a construct that closes at once stands before segments that tile the
line. -/
private theorem agreement_of_closesAtOnce (text : line ≠ "") (short : byteSize line < 2 ^ 32)
    {r : Construct} (closes : b.language.ClosesAtOnce line (prior.getD .normal) r)
    (scanned : (b.language.scan line (prior.getD .normal)).1 = ⟨0, 0, .construct r⟩ :: segments)
    (tiling : Tiling line.toList 0 (byteSize line) segments) : b.LineAgreement line prior := by
  obtain ⟨_, _, shape, ordered, _⟩ := b.exists_wordPairs text short prior
  have tokens := grammar_tokens scanned (List.cons_ne_nil _ _)
  have words := grammar_words scanned (List.cons_ne_nil _ _)
  have split : b.pairsFrom none (⟨0, 0, .construct r⟩ :: segments) =
      (0, b.word (.construct r)) :: b.pairsFrom (some (b.word (.construct r))) segments := by
    rw [b.pairsFrom_cons none segments (by simp), if_neg (by simp)]
    rfl
  have pairs : wordPairs (b.grammar.words line prior).1 =
      (0, b.word (.construct r)) :: b.pairsFrom (some (b.word (.construct r))) segments := by
    rw [words, ← split]
    rfl
  have strict := b.pairsFrom_starts_pairwise tiling short (some (b.word (.construct r)))
  refine ⟨rfl, ?_, ?_, ?_, ?_, ?_, ?_, ?_⟩
  · intro p inside
    refine look_of_tiling [⟨0, 0, .construct r⟩] segments
      (some (b.word (.construct r))) scanned (by simp)
      tiling short ?_ inside
    intro p
    rw [List.singleton_append, split, wordAt?_cons_of_le (Nat.zero_le p)]
  · rw [words]
    exact b.packFrom_length_even none _
  · rw [shape]
    rfl
  · rw [shape]
    exact ordered
  · rw [pairs, List.map_cons]
    rcases pairwise_zero_cons strict with later | ⟨rest, here⟩
    · exact .inl later
    · rw [here] at strict ⊢
      exact .inr ⟨r, rest, closes, rfl, strict⟩
  · rw [pairs, tokens]
    intro pair mem
    rcases List.mem_cons.mp mem with rfl | later
    · exact ⟨b.scopedToken ⟨0, 0, .construct r⟩, List.mem_map_of_mem List.mem_cons_self, rfl⟩
    · obtain ⟨t, found, first⟩ := b.exists_segment_of_mem_pairsFrom tiling short _ later
      exact ⟨b.scopedToken t, List.mem_map_of_mem (List.mem_cons_of_mem _ found), first⟩
  · rw [pairs]
    exact b.pairsFrom_words_isChain tiling short (some (b.word (.construct r)))

end Line

/-- The packed answer for a line agrees with its scoped tokens, whatever the language, the theme,
the palette and the state before the line are. -/
theorem words_agree_with_tokens {line : String} (filled : line ≠ "")
    (short : byteSize line < 2 ^ 32) (prior : Option LineState) : b.LineAgreement line prior := by
  rcases b.language.scan_tiling filled (prior.getD .normal) with tiling |
      ⟨r, rest, closes, scanned, tiling⟩
  · exact agreement_of_tiling filled short rfl tiling
  · exact agreement_of_closesAtOnce filled short closes scanned tiling

/-- The line `é1` behind an open comment that any text closes: its first segment is empty, and both
pairs start at 0. -/
theorem words_agree_with_tokens_at_once :
    let comment : Construct :=
      ⟨"comment", Pattern.regex (.set (.single '#')), Pattern.regex .empty, .blockComment,
        some '\\', 7⟩
    let number : PatternRule :=
      ⟨"number", Pattern.regex (.many (.set .digit) ⟨1, none, true⟩), .number, 5⟩
    let theme : Theme := ⟨"plain", none, none, [⟨none, ⟨["comment"]⟩, ⟨some "#0f0", none, {}⟩⟩]⟩
    let b : BoundLanguage :=
      ⟨{ Language.new "t" "T" "t" with patterns := [number], constructs := [comment] }, theme,
        .ofTheme theme⟩
    "é1" ≠ "" ∧ byteSize "é1" < 2 ^ 32 ∧ b.LineAgreement "é1" (some ⟨7⟩) :=
  ⟨by decide, by decide, words_agree_with_tokens _ (by decide) (by decide) _⟩

end BoundLanguage

end Highlight
