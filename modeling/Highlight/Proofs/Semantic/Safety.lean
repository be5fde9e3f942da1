import Highlight.Proofs.Semantic.Carving

/-!
# Splicing is safe on any input

`splice?` is the splice with every step checked: it has no answer as soon as an offset would be
subtracted below zero, or a token would be cut outside its text or within a character. It answers on
every input, with the answer of `splice` (`splice?_eq_some`), so the unchecked steps of `splice`
never go wrong. The line may be any text, the tokens need not spell it, and the spans may come in
any order and have any offsets.

With the laws of carving this gives `splice_safe`: tokens are only cut finer, nothing of their text
is lost, and every span is counted once.
-/

namespace Highlight

/-! ## The checked splice -/

/-- The difference of two offsets, where it is not below zero. -/
def minus? (a b : Nat) : Option Nat := if b ≤ a then some (a - b) else none

/-- The text of the token at `start` between two offsets of its line. -/
def Token.text? (t : Token) (start low high : Nat) : Option String :=
  (minus? low start).bind fun i => (minus? high start).bind fun j => slice? t.content i j

/-- Whether the span can be applied, looked up in the order in which the conditions are tested. -/
def Span.fits? (span : Span) (line : String) (t : Token) (start cursor : Nat) : Option Bool :=
  if span.stop ≤ span.start then some false
  else if span.start < cursor then some false
  else if start + t.size < span.stop then some false
  else if span.scopes.isEmpty then some false
  else match slice? line span.start span.stop with
    | none => some false
    | some text =>
      (minus? span.start start).bind fun i => (minus? span.stop start).bind fun j =>
        some (slice? t.content i j == some text)

/-- The last piece of a token, with its text looked up. -/
def lastPiece? (t : Token) (start cursor : Nat) : Option (List Token) :=
  if cursor = start then some [t]
  else if cursor < start + t.size then
    (t.text? start cursor (start + t.size)).map fun content => [{ t with content }]
  else some []

/-- `carve` with every step checked. -/
def carve? (line : String) (t : Token) (start : Nat) :
    (cursor : Nat) → Splicer → List Span → Option (List Token × List Span × Splicer)
  | cursor, s, [] => (lastPiece? t start cursor).map fun pieces => (pieces, [], s)
  | cursor, s, span :: spans =>
    if span.start < start + t.size then
      match span.fits? line t start cursor with
      | none => none
      | some false => carve? line t start cursor (s.countSkipped 1) spans
      | some true =>
        let lead := if cursor < span.start then
            (t.text? start cursor span.start).map fun content => [{ t with content }]
          else some []
        lead.bind fun lead =>
          (t.text? start span.start span.stop).bind fun content =>
            (carve? line t start span.stop (s.take span) spans).map fun (pieces, rest, s') =>
              (lead ++ (s.rule span).paint content :: pieces, rest, s')
    else (lastPiece? t start cursor).map fun pieces => (pieces, span :: spans, s)

/-- `spliceFrom` with every step checked. -/
def spliceFrom? (line : String) :
    (start : Nat) → Splicer → List Token → List Span → Option (List Token × Splicer)
  | _, s, [], spans => some ([], s.countSkipped spans.length)
  | start, s, t :: ts, spans =>
    (carve? line t start start s spans).bind fun (pieces, rest, s) =>
      (spliceFrom? line (start + t.size) s ts rest).map fun (others, s) => (pieces ++ others, s)

/-- `splice` with every step checked. -/
def splice? (line : String) (s : Splicer) (tokens : List Token) (spans : List Span) :
    Option (List Token × Splicer) :=
  spliceFrom? line 0 s tokens spans

/-! ## Every check succeeds -/

theorem minus?_of_le {a b : Nat} (h : b ≤ a) : minus? a b = some (a - b) := if_pos h

/-- Between two places where the token may be cut there is text. -/
theorem Token.text?_eq_some {t : Token} {start low high : Nat} (first : t.Cut start low)
    (last : t.Cut start high) (ordered : low ≤ high) :
    ∃ content, t.text? start low high = some content ∧
      slice? t.content (low - start) (high - start) = some content := by
  have below := first.low
  obtain ⟨content, cut⟩ := exists_slice? (by omega) first.boundary last.boundary
  refine ⟨content, ?_, cut⟩
  rw [Token.text?, minus?_of_le first.low, minus?_of_le last.low]
  exact cut

theorem Span.fits?_eq_some {span : Span} {line : String} {t : Token} {start cursor : Nat}
    (low : start ≤ cursor) :
    span.fits? line t start cursor = some (span.fits line t start cursor) := by
  unfold Span.fits? Span.fits
  by_cases filled : span.start < span.stop
  · by_cases free : cursor ≤ span.start
    · have first := minus?_of_le (Nat.le_trans low free)
      have last := minus?_of_le (Nat.le_trans (Nat.le_trans low free) (Nat.le_of_lt filled))
      rw [if_neg (by omega), if_neg (by omega)]
      by_cases inside : span.stop ≤ start + t.size
      · rw [if_neg (by omega)]
        cases named : span.scopes.isEmpty with
        | true => simp
        | false =>
          cases slice? line span.start span.stop <;> simp [filled, free, inside, first, last]
      · rw [if_pos (by omega)]
        simp [inside]
    · rw [if_neg (by omega), if_pos (by omega)]
      simp [free]
  · rw [if_pos (by omega)]
    simp [filled]

theorem lastPiece?_eq_some {t : Token} {start cursor : Nat} (cut : t.Cut start cursor) :
    lastPiece? t start cursor = some (lastPiece t start cursor) := by
  unfold lastPiece? lastPiece
  split
  next => rfl
  next =>
    split
    next inside =>
      have last : t.Cut start (start + t.size) :=
        ⟨Nat.le_add_right _ _, by rw [Nat.add_sub_cancel_left]; exact boundary_byteSize t.content⟩
      obtain ⟨content, found, inner⟩ := Token.text?_eq_some cut last (Nat.le_of_lt inside)
      rw [Nat.add_sub_cancel_left] at inner
      rw [found, Token.piece, inner]
      rfl
    next => rfl

/-- Every check on the way along a token succeeds. -/
theorem Carves.carve?_eq_some {line : String} {t : Token} {start cursor : Nat} {s s' : Splicer}
    {spans rest : List Span} {pieces : List Token}
    (walk : Carves line t start cursor s spans pieces rest s') (cut : t.Cut start cursor) :
    carve? line t start cursor s spans = some (pieces, rest, s') := by
  induction walk with
  | @done cursor s spans ahead =>
    cases spans with
    | nil => rw [carve?, lastPiece?_eq_some cut, Option.map_some]
    | cons span spans =>
      have behind : ¬ span.start < start + t.size := by simpa using ahead
      rw [carve?, if_neg behind, lastPiece?_eq_some cut, Option.map_some]
  | @take cursor s s' span spans rest pieces reached fits _ ih =>
    have cut' := fits.cut_start cut
    have cut'' := fits.cut_stop cut
    obtain ⟨content, found, inner⟩ := Token.text?_eq_some cut' cut'' (Nat.le_of_lt fits.filled)
    have lead : (if cursor < span.start then
          (t.text? start cursor span.start).map fun content => [{ t with content }]
        else some []) = some (t.lead start cursor span) := by
      unfold Token.lead
      split
      next wide =>
        obtain ⟨before, found, inner⟩ := Token.text?_eq_some cut cut' (Nat.le_of_lt wide)
        rw [found, Token.piece, inner]
        rfl
      next => rfl
    rw [carve?, if_pos reached, Span.fits?_eq_some cut.low, Span.fits_iff.mpr fits]
    simp only [lead, found, ih cut'', Option.bind_some, Option.map_some, Token.painted_eq, inner,
      Option.getD_some]
  | skip reached misfit _ ih =>
    rw [carve?, if_pos reached, Span.fits?_eq_some cut.low,
      Bool.eq_false_iff.mpr (Span.fits_iff.not.mpr misfit)]
    exact ih cut

theorem spliceFrom?_eq_some (line : String) (tokens : List Token) :
    ∀ (start : Nat) (s : Splicer) (spans : List Span),
      spliceFrom? line start s tokens spans = some (spliceFrom line start s tokens spans) := by
  induction tokens with
  | nil => exact fun start s spans => rfl
  | cons t ts ih =>
    intro start s spans
    have walk := (carves line t start start s spans).carve?_eq_some (.of_start t start)
    rw [spliceFrom?, walk, Option.bind_some]
    dsimp only
    rw [ih, Option.map_some, spliceFrom_cons]

theorem splice?_eq_some (line : String) (s : Splicer) (tokens : List Token) (spans : List Span) :
    splice? line s tokens spans = some (splice line s tokens spans) :=
  spliceFrom?_eq_some line tokens 0 s spans

/-! ## Nothing is lost -/

/-- The answer of a splice falls into one run of pieces for each token, which spells the token. -/
theorem exists_runs (line : String) (tokens : List Token) :
    ∀ (start : Nat) (s : Splicer) (spans : List Span), ∃ runs : List (List Token),
      (spliceFrom line start s tokens spans).1 = runs.flatten ∧
        List.Forall₂ (fun t run => run ≠ [] ∧ spelled run = t.content) tokens runs := by
  induction tokens with
  | nil => exact fun start s spans => ⟨[], rfl, .nil⟩
  | cons t ts ih =>
    intro start s spans
    have walk := carves line t start start s spans
    obtain ⟨runs, joined, spells⟩ := ih (start + t.size) (carve line t start start s spans).2.2
      (carve line t start start s spans).2.1
    refine ⟨(carve line t start start s spans).1 :: runs, ?_, ?_⟩
    · rw [List.flatten_cons, ← joined, spliceFrom_cons]
    · exact .cons ⟨walk.pieces_ne_nil rfl, walk.spelled_pieces⟩ spells

theorem spelled_flatten_runs {tokens : List Token} {runs : List (List Token)}
    (spells : List.Forall₂ (fun t run => run ≠ [] ∧ spelled run = t.content) tokens runs) :
    spelled runs.flatten = spelled tokens := by
  induction spells with
  | nil => rfl
  | cons head _ ih => rw [List.flatten_cons, spelled_append, spelled_cons, head.2, ih]

theorem spliceFrom_count (line : String) (tokens : List Token) :
    ∀ (start : Nat) (s : Splicer) (spans : List Span),
      (spliceFrom line start s tokens spans).2.stats.applied +
        (spliceFrom line start s tokens spans).2.stats.skipped =
        s.stats.applied + s.stats.skipped + spans.length := by
  induction tokens with
  | nil =>
    intro start s spans
    simp only [spliceFrom, Splicer.countSkipped]
    omega
  | cons t ts ih =>
    intro start s spans
    have first := (carves line t start start s spans).count
    have others :=
      ih (start + t.size) (carve line t start start s spans).2.2
        (carve line t start start s spans).2.1
    rw [spliceFrom_cons]
    dsimp only
    omega

theorem spelled_spliceFrom (line : String) (tokens : List Token) (start : Nat) (s : Splicer)
    (spans : List Span) :
    spelled (spliceFrom line start s tokens spans).1 = spelled tokens := by
  obtain ⟨runs, joined, spells⟩ := exists_runs line tokens start s spans
  rw [joined]
  exact spelled_flatten_runs spells

/-- A splice keeps the empty tokens and makes no others. -/
theorem blanks_spliceFrom (line : String) (tokens : List Token) :
    ∀ (start : Nat) (s : Splicer) (spans : List Span),
      blanks (spliceFrom line start s tokens spans).1 = blanks tokens := by
  induction tokens with
  | nil => exact fun start s spans => rfl
  | cons t ts ih =>
    intro start s spans
    rw [spliceFrom_cons, blanks_append, (carves line t start start s spans).blanks_pieces, ih,
      ← blanks_append, List.singleton_append]

/-- Whatever the line, the tokens and the spans are: no step of a splice goes wrong, the text of the
tokens stays what it was, every token is the text of a run of pieces, and every span is applied or
skipped. -/
theorem splice_safe (line : String) (s : Splicer) (tokens : List Token) (spans : List Span) :
    splice? line s tokens spans = some (splice line s tokens spans) ∧
      spelled (splice line s tokens spans).1 = spelled tokens ∧
      (∃ runs : List (List Token), (splice line s tokens spans).1 = runs.flatten ∧
        List.Forall₂ (fun t run => run ≠ [] ∧ spelled run = t.content) tokens runs) ∧
      (splice line s tokens spans).2.stats.applied + (splice line s tokens spans).2.stats.skipped =
        s.stats.applied + s.stats.skipped + spans.length := by
  exact ⟨splice?_eq_some line s tokens spans, spelled_spliceFrom line tokens 0 s spans,
    exists_runs line tokens 0 s spans, spliceFrom_count line tokens 0 s spans⟩

end Highlight
