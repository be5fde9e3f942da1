import Highlight.Proofs.Token.Spelling
import Highlight.Semantic.Splice
import Mathlib.Data.List.Forall2

/-!
# Carving never loses text

A splice walks tokens and spans side by side, and within a token each span is taken, skipped or left
for a later token. `Carves` is that walk as a relation with one rule for each of the three, and
`carve` follows it (`carves`); every law of a splice is an induction on it.

The one invariant is that the token may be cut at the cursor (`Token.Cut`): the cursor is not before
the token, and what lies between is whole characters of it. A span that fits keeps it, in whatever
order spans come. From it follows that the pieces of a token spell the token
(`Carves.slice?_pieces`), that no step subtracts below zero or cuts a character (`splice?_eq_some`),
and, counting, that every span is applied or skipped once (`splice_safe`).
-/

namespace Highlight

/-! ## Spans that fit -/

/-- The span holds text and scopes, lies behind the cursor and before the end of the token, and
covers the same text in the line and in the token. -/
structure Span.Fits (span : Span) (line : String) (t : Token) (start cursor : Nat) : Prop where
  filled : span.start < span.stop
  free : cursor ≤ span.start
  inside : span.stop ≤ start + t.size
  named : span.scopes ≠ []
  agrees : ∃ text, slice? line span.start span.stop = some text ∧
    slice? t.content (span.start - start) (span.stop - start) = some text

theorem Span.fits_iff {span : Span} {line : String} {t : Token} {start cursor : Nat} :
    span.fits line t start cursor ↔ span.Fits line t start cursor := by
  unfold Span.fits
  simp only [Bool.and_eq_true, decide_eq_true_eq, Bool.not_eq_true', List.isEmpty_eq_false_iff]
  constructor
  · rintro ⟨⟨⟨⟨filled, free⟩, inside⟩, named⟩, agrees⟩
    split at agrees
    next => cases agrees
    next text cut => exact ⟨filled, free, inside, named, text, cut, by simpa using agrees⟩
  · rintro ⟨filled, free, inside, named, text, cut, cut'⟩
    refine ⟨⟨⟨⟨filled, free⟩, inside⟩, named⟩, ?_⟩
    rw [cut]
    simpa using cut'

/-! ## The walk along one token -/

/-- A token in the look of a rule, without an explanation. -/
def Rule.paint (rule : Rule) (content : String) : Token where
  content
  color := rule.style.foreground.map upperColor
  fontStyle := rule.style.fontStyle

theorem Token.painted_eq (t : Token) (rule : Rule) (i j : Nat) :
    t.painted rule i j = rule.paint ((slice? t.content i j).getD "") := rfl

namespace Splicer

/-- The rule that colors a span. -/
def rule (s : Splicer) (span : Span) : Rule :=
  ((s.matcher.bestOfAny span.scopes).1.map (·.rule)).getD .blank

/-- The splicer after a span is applied. -/
def take (s : Splicer) (span : Span) : Splicer :=
  { s with matcher := (s.matcher.bestOfAny span.scopes).2 }.countApplied

end Splicer

/-- What a token keeps between the cursor and a span. -/
def Token.lead (t : Token) (start cursor : Nat) (span : Span) : List Token :=
  if cursor < span.start then [t.piece (cursor - start) (span.start - start)] else []

/-- The walk along the token at `start`, from a cursor, a splicer and the spans to come to the
pieces of the token, the spans left over and the splicer behind it. -/
inductive Carves (line : String) (t : Token) (start : Nat) :
    Nat → Splicer → List Span → List Token → List Span → Splicer → Prop
  | done {cursor : Nat} {s : Splicer} {spans : List Span}
      (ahead : ∀ span ∈ spans.head?, start + t.size ≤ span.start) :
      Carves line t start cursor s spans (lastPiece t start cursor) spans s
  | take {cursor : Nat} {s s' : Splicer} {span : Span} {spans rest : List Span}
      {pieces : List Token} (reached : span.start < start + t.size)
      (fits : span.Fits line t start cursor)
      (later : Carves line t start span.stop (s.take span) spans pieces rest s') :
      Carves line t start cursor s (span :: spans)
        (t.lead start cursor span ++
          t.painted (s.rule span) (span.start - start) (span.stop - start) :: pieces) rest s'
  | skip {cursor : Nat} {s s' : Splicer} {span : Span} {spans rest : List Span}
      {pieces : List Token} (reached : span.start < start + t.size)
      (misfit : ¬ span.Fits line t start cursor)
      (later : Carves line t start cursor (s.countSkipped 1) spans pieces rest s') :
      Carves line t start cursor s (span :: spans) pieces rest s'

theorem carves (line : String) (t : Token) (start cursor : Nat) (s : Splicer) (spans : List Span) :
    Carves line t start cursor s spans (carve line t start cursor s spans).1
      (carve line t start cursor s spans).2.1 (carve line t start cursor s spans).2.2 := by
  induction spans generalizing cursor s with
  | nil => exact .done (fun _ mem => nomatch mem)
  | cons span spans ih =>
    rw [carve]
    split
    next reached =>
      split
      next fits => exact .take reached (Span.fits_iff.mp fits) (ih _ _)
      next misfit => exact .skip reached (fun fits => misfit (Span.fits_iff.mpr fits)) (ih _ _)
    next ahead => exact .done (by simpa using ahead)

section Equations

variable {line : String} {t : Token} {start cursor : Nat} {s : Splicer} {span : Span}
    {spans : List Span}

/-- A span that fits is taken, and the walk goes on behind it. -/
theorem carve_of_fits (reached : span.start < start + t.size)
    (fits : span.fits line t start cursor) :
    carve line t start cursor s (span :: spans) =
      (t.lead start cursor span ++
        t.painted (s.rule span) (span.start - start) (span.stop - start) ::
        (carve line t start span.stop (s.take span) spans).1,
        (carve line t start span.stop (s.take span) spans).2) := by
  rw [carve, if_pos reached, if_pos fits]
  rfl

theorem carve_of_not_fits (reached : span.start < start + t.size)
    (misfit : ¬ span.fits line t start cursor) :
    carve line t start cursor s (span :: spans) =
      carve line t start cursor (s.countSkipped 1) spans := by
  rw [carve, if_pos reached, if_neg misfit]

theorem carve_of_ahead (ahead : ¬ span.start < start + t.size) :
    carve line t start cursor s (span :: spans) = (lastPiece t start cursor, span :: spans, s) := by
  rw [carve, if_neg ahead]

end Equations

/-- A splice carves its first token and goes on behind it with the spans left over. -/
theorem spliceFrom_cons (line : String) (start : Nat) (s : Splicer) (t : Token) (ts : List Token)
    (spans : List Span) :
    spliceFrom line start s (t :: ts) spans =
      ((carve line t start start s spans).1 ++
        (spliceFrom line (start + t.size) (carve line t start start s spans).2.2 ts
          (carve line t start start s spans).2.1).1,
        (spliceFrom line (start + t.size) (carve line t start start s spans).2.2 ts
          (carve line t start start s spans).2.1).2) :=
  rfl

/-! ## The cursor stays on the token's characters -/

/-- The token that starts at `start` may be cut at the cursor. -/
structure Token.Cut (t : Token) (start cursor : Nat) : Prop where
  low : start ≤ cursor
  boundary : Boundary t.content.toList (cursor - start)

namespace Token.Cut

variable {t : Token} {start cursor : Nat}

theorem le (h : t.Cut start cursor) : cursor - start ≤ t.size := h.boundary.le_byteLength

theorem of_start (t : Token) (start : Nat) : t.Cut start start :=
  ⟨Nat.le_refl _, by simpa using boundary_zero _⟩

end Token.Cut

namespace Span.Fits

variable {span : Span} {line : String} {t : Token} {start cursor : Nat}

theorem cut_start (fits : span.Fits line t start cursor) (cut : t.Cut start cursor) :
    t.Cut start span.start := by
  obtain ⟨text, _, inner⟩ := fits.agrees
  exact ⟨Nat.le_trans cut.low fits.free, (slice?_boundaries inner).2.1⟩

/-- A span that fits ends where the token may be cut. -/
theorem cut_stop (fits : span.Fits line t start cursor) (cut : t.Cut start cursor) :
    t.Cut start span.stop := by
  obtain ⟨text, _, inner⟩ := fits.agrees
  exact ⟨Nat.le_trans (fits.cut_start cut).low (Nat.le_of_lt fits.filled),
    (slice?_boundaries inner).2.2⟩

end Span.Fits

/-! ## The pieces of a token -/

theorem Token.slice?_piece {t : Token} {i j : Nat} {text : String}
    (cut : slice? t.content i j = some text) :
    (t.piece i j).content = text := by
  rw [Token.piece, cut, Option.getD_some]

theorem Token.slice?_painted {t : Token} {rule : Rule} {i j : Nat} {text : String}
    (cut : slice? t.content i j = some text) : (t.painted rule i j).content = text := by
  rw [Token.painted_eq, cut, Option.getD_some]
  rfl

/-- What is left of a token behind the cursor. -/
theorem slice?_lastPiece {t : Token} {start cursor : Nat} (cut : t.Cut start cursor) :
    slice? t.content (cursor - start) t.size = some (spelled (lastPiece t start cursor)) := by
  have low := cut.low
  have high := cut.le
  unfold lastPiece
  split
  next here =>
    subst here
    simp [Token.size]
  next =>
    split
    next =>
      obtain ⟨text, inner⟩ := exists_slice? high cut.boundary (boundary_byteSize t.content)
      rw [spelled_cons, Token.slice?_piece inner]
      simpa using inner
    next =>
      have all : cursor - start = t.size := by omega
      rw [all]
      exact slice?_self (boundary_byteSize t.content)

theorem slice?_lead {span : Span} {line : String} {t : Token} {start cursor : Nat}
    (fits : span.Fits line t start cursor) (cut : t.Cut start cursor) :
    slice? t.content (cursor - start) (span.start - start) =
      some (spelled (t.lead start cursor span)) := by
  have free := fits.free
  have cut' := fits.cut_start cut
  unfold Token.lead
  split
  next =>
    obtain ⟨text, inner⟩ := exists_slice? (by omega) cut.boundary cut'.boundary
    rw [spelled_cons, Token.slice?_piece inner]
    simpa using inner
  next =>
    have here : cursor = span.start := by omega
    rw [here]
    exact slice?_self cut'.boundary

namespace Carves

variable {line : String} {t : Token} {start cursor : Nat} {s s' : Splicer} {spans rest : List Span}
  {pieces : List Token}

/-- The pieces of a token spell the token from the cursor on. -/
theorem slice?_pieces (walk : Carves line t start cursor s spans pieces rest s')
    (cut : t.Cut start cursor) :
    slice? t.content (cursor - start) t.size = some (spelled pieces) := by
  induction walk with
  | done => exact slice?_lastPiece cut
  | take _ fits _ ih =>
    obtain ⟨text, _, inner⟩ := fits.agrees
    rw [spelled_append, spelled_cons, Token.slice?_painted inner]
    exact slice?_append (slice?_lead fits cut) (slice?_append inner (ih (fits.cut_stop cut)))
  | skip _ _ _ ih => exact ih cut

/-- A walk from the start of a token spells the token. -/
theorem spelled_pieces (walk : Carves line t start start s spans pieces rest s') :
    spelled pieces = t.content := by
  have all := walk.slice?_pieces (.of_start t start)
  rw [Nat.sub_self, Token.size, slice?_all] at all
  exact (Option.some.inj all).symm

/-- No token is carved away. -/
theorem pieces_ne_nil (walk : Carves line t start cursor s spans pieces rest s')
    (whole : cursor = start) :
    pieces ≠ [] := by
  induction walk with
  | done => simp [lastPiece, whole]
  | take => simp
  | skip _ _ _ ih => exact ih whole

/-- No empty piece is made: the only one there can be is an empty token itself. -/
theorem eq_of_mem_of_empty (walk : Carves line t start cursor s spans pieces rest s')
    (cut : t.Cut start cursor) {piece : Token} (mem : piece ∈ pieces) (blank : piece.content = "") :
    piece = t := by
  induction walk with
  | @done cursor s spans =>
    have low := cut.low
    unfold lastPiece at mem
    split at mem
    next => exact List.mem_singleton.mp mem
    next =>
      split at mem
      next inside =>
        obtain ⟨text, inner⟩ := exists_slice? cut.le cut.boundary (boundary_byteSize t.content)
        rw [List.mem_singleton.mp mem, Token.slice?_piece inner] at blank
        exact absurd blank (slice?_ne_empty inner (by omega))
      next => cases mem
  | @take cursor s s' span spans rest pieces _ fits _ ih =>
    have low := cut.low
    rcases List.mem_append.mp mem with lead | mem
    · unfold Token.lead at lead
      split at lead
      next wide =>
        obtain ⟨text, inner⟩ := exists_slice? (by omega) cut.boundary (fits.cut_start cut).boundary
        rw [List.mem_singleton.mp lead, Token.slice?_piece inner] at blank
        exact absurd blank (slice?_ne_empty inner (by omega))
      next => cases lead
    · rcases List.mem_cons.mp mem with rfl | later
      · obtain ⟨text, _, inner⟩ := fits.agrees
        have wide := fits.filled
        have free := fits.free
        rw [Token.slice?_painted inner] at blank
        exact absurd blank (slice?_ne_empty inner (by omega))
      · exact ih (fits.cut_stop cut) later
  | skip _ _ _ ih => exact ih cut mem

theorem pieces_of_blank (walk : Carves line t start cursor s spans pieces rest s')
    (blank : t.content = "") (whole : cursor = start) : pieces = [t] := by
  induction walk with
  | done => rw [lastPiece, if_pos whole]
  | take _ fits _ _ =>
    have none : t.size = 0 := byteSize_eq_zero_iff.mpr blank
    have filled := fits.filled
    have free := fits.free
    have inside := fits.inside
    omega
  | skip _ _ _ ih => exact ih whole

/-- The walk keeps an empty token and makes no empty piece. -/
theorem blanks_pieces (walk : Carves line t start start s spans pieces rest s') :
    blanks pieces = blanks [t] := by
  by_cases blank : t.content = ""
  · rw [walk.pieces_of_blank blank rfl]
  · have none : blanks [t] = [] := blanks_eq_nil_iff.mpr (by simpa using blank)
    rw [none, blanks_eq_nil_iff]
    intro piece mem empty
    exact blank (walk.eq_of_mem_of_empty (.of_start t start) mem empty ▸ empty)

/-- Every span is applied, skipped or left over. -/
theorem count (walk : Carves line t start cursor s spans pieces rest s') :
    s'.stats.applied + s'.stats.skipped + rest.length =
      s.stats.applied + s.stats.skipped + spans.length := by
  induction walk with
  | done => rfl
  | take _ _ _ ih =>
    rw [ih]
    simp only [Splicer.take, Splicer.countApplied, List.length_cons]
    omega
  | skip _ _ _ ih =>
    rw [ih]
    simp only [Splicer.countSkipped, List.length_cons]
    omega

end Carves

end Highlight
