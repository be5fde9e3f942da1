import Highlight.Proofs.Semantic.Safety
import Highlight.Proofs.Semantic.Selection
import Highlight.Proofs.Theme.Memory

/-!
# A splice cuts a line at the greedily chosen spans

On spans by rising start the walk of a splice does what its specification says. On one token, a span
that the walk reaches fits exactly when it is applicable to the line (`Stands.fits_iff`), so the
walk takes the chosen spans that start within the token (`Carves.chosen_eq`), and its pieces are the
token's stretches (`Carves.pieces_eq`). The second is an induction along the walk with the choice
split at the cursor: what was chosen before ends there, what is still to be chosen starts behind it.
A run over all tokens moves that split from token to token (`spliceFrom_eq_cutAt`).
-/

namespace Highlight

/-- Spans by rising start. -/
def Ordered (spans : List Span) : Prop := spans.Pairwise fun a b => a.start ≤ b.start

instance (spans : List Span) : Decidable (Ordered spans) :=
  inferInstanceAs (Decidable (spans.Pairwise fun a b => a.start ≤ b.start))

/-- Spans by rising start lie where the first of them lies. -/
theorem Ordered.above {spans : List Span} (ordered : Ordered spans) {n : Nat}
    (ahead : ∀ span ∈ spans.head?, n ≤ span.start) : ∀ span ∈ spans, n ≤ span.start := by
  cases spans with
  | nil => exact fun span mem => nomatch mem
  | cons head spans =>
    have first : n ≤ head.start := ahead head rfl
    intro span mem
    rcases List.mem_cons.mp mem with rfl | later
    · exact first
    · exact Nat.le_trans first ((List.pairwise_cons.mp ordered).1 span later)

theorem Ordered.tail {span : Span} {spans : List Span} (ordered : Ordered (span :: spans)) :
    Ordered spans :=
  (List.pairwise_cons.mp ordered).2

namespace Stands

variable {line : String} {places : List (Nat × Token)} {start : Nat} {t : Token}

/-- What a token has between two offsets of the line is what the line has there. -/
theorem slice?_content (stands : Stands line places start t) {i j : Nat} (low : start ≤ i)
    (wide : i ≤ j) (high : j ≤ start + t.size) :
    slice? t.content (i - start) (j - start) = slice? line i j :=
  slice?_slice? stands.text low wide high

/-- Of the spans that start within a token exactly the applicable ones fit. -/
theorem fits_iff (stands : Stands line places start t) {span : Span} {cursor : Nat}
    (low : start ≤ span.start) (reached : span.start < start + t.size) :
    span.Fits line t start cursor ↔ span.Applicable line places cursor := by
  constructor
  · rintro ⟨filled, free, inside, named, text, outer, _⟩
    obtain ⟨_, first, last⟩ := slice?_boundaries outer
    exact ⟨filled, named, first, last, ⟨(start, t), stands.mem, low, inside⟩, free⟩
  · rintro ⟨filled, named, first, last, ⟨place, mem, before, inside⟩, free⟩
    have here := stands.alone place mem (by omega) (by omega)
    subst here
    obtain ⟨text, outer⟩ := exists_slice? (Nat.le_of_lt filled) first last
    refine ⟨filled, free, inside, named, text, outer, ?_⟩
    rw [stands.slice?_content low (Nat.le_of_lt filled) inside]
    exact outer

end Stands

/-! ## Pieces as stretches of the line -/

namespace Stands

variable {line : String} {places : List (Nat × Token)} {start : Nat} {t : Token} {rules : List Rule}
  {spans : List Span}

theorem piece_eq (stands : Stands line places start t) {i j : Nat} (low : start ≤ i) (wide : i ≤ j)
    (high : j ≤ start + t.size) (plain : spanAt? spans (i, j) = none) :
    t.piece (i - start) (j - start) = t.dressed line rules spans (i, j) := by
  rw [Token.dressed, plain, Token.piece, stands.slice?_content low wide high]

theorem whole_eq (stands : Stands line places start t)
    (plain : spanAt? spans (start, start + t.size) = none) :
    t = t.dressed line rules spans (start, start + t.size) := by
  rw [Token.dressed, plain]
  simp only [stands.text, Option.getD_some]

theorem painted_eq (stands : Stands line places start t) {span : Span} (low : start ≤ span.start)
    (wide : span.start ≤ span.stop) (high : span.stop ≤ start + t.size)
    (here : spanAt? spans (span.start, span.stop) = some span) :
    t.painted (span.rule rules) (span.start - start) (span.stop - start) =
      t.dressed line rules spans (span.start, span.stop) := by
  rw [Token.dressed, here, Token.painted_eq, stands.slice?_content low wide high]

/-- Behind the last cut a token keeps one stretch, if there is text left or nothing was cut off. -/
theorem lastPiece_eq (stands : Stands line places start t) {cursor : Nat} (low : start ≤ cursor)
    (high : cursor ≤ start + t.size) (plain : spanAt? spans (cursor, start + t.size) = none) :
    lastPiece t start cursor =
      if start < cursor ∧ cursor = start + t.size then []
      else [t.dressed line rules spans (cursor, start + t.size)] := by
  unfold lastPiece
  by_cases here : cursor = start
  · subst here
    rw [if_pos rfl, if_neg (by omega), ← stands.whole_eq plain]
  · rw [if_neg here]
    by_cases inside : cursor < start + t.size
    · rw [if_pos inside, if_neg (by omega), ← stands.piece_eq low high (Nat.le_refl _) plain,
        Nat.add_sub_cancel_left]
    · rw [if_neg inside, if_pos (by omega)]

end Stands

theorem Splicer.rule_eq {s : Splicer} {rules : List Rule} (right : s.matcher.Sound rules)
    (span : Span) :
    s.rule span = span.rule rules := by
  rw [Splicer.rule, Span.rule, (right.bestOfAny span.scopes).1]

/-! ## The walk along one token -/

namespace Carves

variable {line : String} {places : List (Nat × Token)} {t : Token} {start cursor : Nat}
    {s s' : Splicer}
  {spans rest : List Span} {pieces : List Token} {rules : List Rule}

theorem sound (walk : Carves line t start cursor s spans pieces rest s')
    (right : s.matcher.Sound rules) :
    s'.matcher.Sound rules := by
  induction walk with
  | done => exact right
  | take _ _ _ ih => exact ih (right.bestOfAny _).2
  | skip _ _ _ ih => exact ih right

theorem rest_above (walk : Carves line t start cursor s spans pieces rest s')
    (ordered : Ordered spans) :
    Ordered rest ∧ ∀ span ∈ rest, start + t.size ≤ span.start := by
  induction walk with
  | done ahead => exact ⟨ordered, ordered.above ahead⟩
  | take _ _ _ ih => exact ih ordered.tail
  | skip _ _ _ ih => exact ih ordered.tail

/-- The walk takes what is chosen up to the end of the token, and leaves the choice behind it
open. -/
theorem chosen_eq (walk : Carves line t start cursor s spans pieces rest s')
    (stands : Stands line places start t) (ordered : Ordered spans)
    (above : ∀ span ∈ spans, start ≤ span.start) (high : cursor ≤ start + t.size) :
    ∃ taken, chosen line places cursor spans = taken ++ chosen line places (start + t.size) rest ∧
      (∀ span ∈ taken, span.stop ≤ start + t.size) ∧
      s'.stats.applied = s.stats.applied + taken.length := by
  induction walk with
  | @done cursor s spans ahead =>
    have behind := ordered.above ahead
    refine ⟨[], ?_, (fun _ mem => nomatch mem), rfl⟩
    exact chosen_eq_of_le (fun span mem => Nat.le_trans high (behind span mem)) behind
  | @take cursor s s' span spans rest pieces reached fits later ih =>
    have applicable := (stands.fits_iff (above span List.mem_cons_self) reached).mp fits
    obtain ⟨taken, split, within, count⟩ := ih ordered.tail
      (fun other mem => above other (List.mem_cons_of_mem _ mem)) fits.inside
    refine ⟨span :: taken, ?_, ?_, ?_⟩
    · rw [chosen, if_pos applicable, split, List.cons_append]
    · intro other mem
      rcases List.mem_cons.mp mem with rfl | mem
      · exact fits.inside
      · exact within other mem
    · rw [count, List.length_cons]
      simp only [Splicer.take, Splicer.countApplied]
      omega
  | @skip cursor s s' span spans rest pieces reached misfit later ih =>
    have refused : ¬ span.Applicable line places cursor := fun applicable =>
      misfit ((stands.fits_iff (above span List.mem_cons_self) reached).mpr applicable)
    rw [chosen, if_neg refused]
    exact ih ordered.tail (fun other mem => above other (List.mem_cons_of_mem _ mem)) high

/-- The pieces of a walk are the token's stretches from the cursor on. Past the cursor the cuts are
those of the spans still to be chosen, since what was chosen before ends there. -/
theorem pieces_eq (walk : Carves line t start cursor s spans pieces rest s')
    (stands : Stands line places start t) (right : s.matcher.Sound rules) (ordered : Ordered spans)
    (above : ∀ span ∈ spans, start ≤ span.start) (low : start ≤ cursor)
    (high : cursor ≤ start + t.size) {past : List Span} (before : Past cursor past) :
    pieces = if start < cursor ∧ cursor = start + t.size then []
      else (stretches cursor
        (cuts (past ++ chosen line places cursor spans) cursor (start + t.size))
        (start + t.size)).map (t.dressed line rules (past ++ chosen line places cursor spans)) := by
  induction walk generalizing past with
  | @done cursor s spans ahead =>
    have behind := ordered.above ahead
    have later : ∀ span ∈ chosen line places cursor spans,
        start + t.size ≤ span.start ∧ span.start < span.stop :=
      fun span mem => ⟨behind span ((chosen_sublist _ _).subset mem), (chosen_bounds mem).2⟩
    rw [stands.lastPiece_eq low high (before.spanAt?_gap later), before.cuts_gap later, stretches,
      List.map_singleton]
  | @take cursor s s' span spans rest pieces reached fits later ih =>
    have applicable := (stands.fits_iff (above span List.mem_cons_self) reached).mp fits
    have free := fits.free
    have filled := fits.filled
    have inside := fits.inside
    have around : Around cursor past span (chosen line places span.stop spans) :=
      ⟨before, free, filled, fun other mem => chosen_bounds mem⟩
    have tail := ih (right.bestOfAny _).2 ordered.tail
      (fun other mem => above other (List.mem_cons_of_mem _ mem)) (by omega) inside around.past_snoc
    rw [List.append_assoc, List.singleton_append] at tail
    rw [chosen, if_pos applicable, if_neg (by omega), around.stretches_eq inside, List.map_append,
      List.map_cons, ← stands.painted_eq (by omega) (by omega) inside around.spanAt?_span,
      Splicer.rule_eq right, tail]
    congr 1
    · unfold Token.lead
      split
      next wide =>
        rw [List.map_singleton, stands.piece_eq low free (by omega) (around.spanAt?_lead wide)]
      next => rfl
    · congr 1
      by_cases last : span.stop = start + t.size
      · rw [if_pos ⟨by omega, last⟩, if_pos last, List.map_nil]
      · rw [if_neg (fun both => last both.2), if_neg last]
  | @skip cursor s s' span spans rest pieces reached misfit later ih =>
    have refused : ¬ span.Applicable line places cursor := fun applicable =>
      misfit ((stands.fits_iff (above span List.mem_cons_self) reached).mpr applicable)
    rw [chosen, if_neg refused]
    exact ih right ordered.tail (fun other mem => above other (List.mem_cons_of_mem _ mem)) low
      high before

end Carves

/-! ## The run over all tokens -/

/-- A run over the tokens from `start` on cuts them at the whole choice: the part `past` of it that
is already taken, and the part that is still to be made. -/
theorem spliceFrom_eq_cutAt {line : String} {places : List (Nat × Token)} {rules : List Rule}
    {ts : List Token} :
    ∀ {start : Nat} {s : Splicer} {spans past : List Span},
      (∀ place ∈ placed start ts, Stands line places place.1 place.2) →
      start + byteSize (spelled ts) = byteSize line → s.matcher.Sound rules → Ordered spans →
      (∀ span ∈ spans, start ≤ span.start) → Past start past →
      (spliceFrom line start s ts spans).1 =
          cutAt line rules (past ++ chosen line places start spans) (placed start ts) ∧
        (spliceFrom line start s ts spans).2.stats.applied =
          s.stats.applied + (chosen line places start spans).length := by
  induction ts with
  | nil =>
    intro start s spans past _ full _ _ above _
    rw [spelled_nil] at full
    have none : chosen line places start spans = [] :=
      chosen_eq_nil fun span mem => full ▸ above span mem
    rw [none]
    exact ⟨rfl, rfl⟩
  | cons t ts ih =>
    intro start s spans past standing full right ordered above before
    have stands : Stands line places start t := standing (start, t) List.mem_cons_self
    have walk := carves line t start start s spans
    have pieces :=
      walk.pieces_eq stands right ordered above (Nat.le_refl _) (Nat.le_add_right _ _) before
    obtain ⟨taken, split, within, count⟩ :=
      walk.chosen_eq stands ordered above (Nat.le_add_right _ _)
    obtain ⟨ordered', above'⟩ := walk.rest_above ordered
    have before' : Past (start + t.size) (past ++ taken) := by
      intro span mem
      rcases List.mem_append.mp mem with front | back
      · have bounds := before span front
        omega
      · have chose : span ∈ chosen line places start spans := by
          rw [split]
          exact List.mem_append_left _ back
        exact ⟨(chosen_bounds chose).2, within span back⟩
    obtain ⟨others, count'⟩ := ih (fun place mem => standing place (List.mem_cons_of_mem _ mem))
      (by rw [← full, spelled_cons, byteSize_append, Token.size, Nat.add_assoc])
      (walk.sound right) ordered' above'
      before'
    rw [List.append_assoc, ← split] at others
    rw [if_neg (by omega)] at pieces
    rw [spliceFrom_cons]
    refine ⟨?_, ?_⟩
    · rw [others, pieces]
      rfl
    · rw [count', count, split, List.length_append, Nat.add_assoc]

/-- Where tokens spell the line and spans come by rising start, a splice cuts the tokens at the
greedily chosen spans and paints these, whatever the matcher was asked before. It makes no empty
piece, and counts the chosen spans as applied and the others as skipped. -/
theorem splice_eq_cutAt {line : String} {tokens : List Token} {spans : List Span}
    {rules : List Rule} {s : Splicer} (spells : spelled tokens = line) (ordered : Ordered spans)
    (reachable : s.matcher.Reachable rules) :
    let applied := chosen line (placed 0 tokens) 0 spans
    (splice line s tokens spans).1 = cutAt line rules applied (placed 0 tokens) ∧
      blanks (splice line s tokens spans).1 = blanks tokens ∧
      (splice line s tokens spans).2.stats.applied = s.stats.applied + applied.length ∧
      (splice line s tokens spans).2.stats.skipped =
        s.stats.skipped + (spans.length - applied.length) := by
  intro applied
  have nothing : Past 0 [] := fun span mem => nomatch mem
  obtain ⟨pieces, taken⟩ :=
    spliceFrom_eq_cutAt (stands_of_spelled spells) (by rw [Nat.zero_add, spells])
    reachable.sound ordered (fun span _ => Nat.zero_le _) nothing
  have count : (splice line s tokens spans).2.stats.applied = s.stats.applied + applied.length :=
    taken
  have all : (splice line s tokens spans).2.stats.applied +
      (splice line s tokens spans).2.stats.skipped =
      s.stats.applied + s.stats.skipped + spans.length := spliceFrom_count line tokens 0 s spans
  have fewer : applied.length ≤ spans.length := (chosen_sublist 0 spans).length_le
  exact ⟨pieces, blanks_spliceFrom line tokens 0 s spans, count, by omega⟩

/-- The line `aé=b` with an empty token in it, and spans that touch, cut a character, repeat,
straddle two tokens and name no scope. The matcher was asked before. -/
theorem splice_eq_cutAt_accented :
    let rules : List Rule := [⟨none, ⟨["x"]⟩, ⟨some "#0af", none, {}⟩⟩]
    let s : Splicer := ⟨(({ rules } : Matcher).best "x").2, ⟨3, 4⟩⟩
    let tokens : List Token := [{ content := "aé", color := some "#111" }, { content := "" },
      { content := "=b", color := some "#222" }]
    let spans : List Span :=
      [⟨0, 1, ["x"]⟩, ⟨1, 2, ["x"]⟩, ⟨1, 3, ["y", "x.z"]⟩, ⟨1, 3, ["x"]⟩, ⟨2, 4, ["x"]⟩, ⟨3, 5, []⟩,
        ⟨4, 5, ["y"]⟩]
    spelled tokens = "aé=b" ∧ Ordered spans ∧ s.matcher.Reachable rules ∧
      (splice "aé=b" s tokens spans).1 =
        [{ content := "a", color := some "#0AF" }, { content := "é", color := some "#0AF" },
          { content := "" },
          { content := "=", color := some "#222" }, { content := "b" }] ∧
      (splice "aé=b" s tokens spans).2.stats.applied = 6 ∧
      (splice "aé=b" s tokens spans).2.stats.skipped = 8 := by
  intro rules s tokens spans
  have spells : spelled tokens = "aé=b" := by decide
  have ordered : Ordered spans := by decide
  have reachable : s.matcher.Reachable rules := .best "x" .fresh
  obtain ⟨pieces, _, applied, skipped⟩ := splice_eq_cutAt spells ordered reachable
  refine ⟨spells, ordered, reachable, ?_, applied.trans (by decide), skipped.trans (by decide)⟩
  rw [pieces]
  decide

end Highlight
