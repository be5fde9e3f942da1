import Highlight.Proofs.Session.Documents

/-!
# Explaining changes nothing but the explanations

With explanations a session asks the grammar a second question for every line and walks along its
answer while it cuts the line into tokens, and the tokens it explains go on into the splice. None of
this reaches the look of a token. `Token.unexplained` forgets the explanation; forgetting passes
through every stage, from the tokens of a line (`Painter.lineTokens_unexplained`) through the splice
(`spliceFrom_unexplained`) to the lines of a document (`Session.lines_unexplaining`). There the two
runs have the same splicer before every line, not only the same counts, since which spans fit and
which rules color them is decided without a look at explanations.
-/

namespace Highlight

namespace Token

/-- The token without its explanation. -/
def unexplained (t : Token) : Token := { t with explanation := none }

@[simp] theorem size_unexplained (t : Token) : t.unexplained.size = t.size := rfl

@[simp] theorem piece_unexplained (t : Token) (i j : Nat) :
    t.unexplained.piece i j = (t.piece i j).unexplained := rfl

/-- A part in the look of a rule has no explanation in the first place. -/
@[simp] theorem painted_unexplained (t : Token) (rule : Rule) (i j : Nat) :
    t.unexplained.painted rule i j = (t.painted rule i j).unexplained := rfl

/-- The tokens hold the same text in the same look. -/
structure SameLook (t t' : Token) : Prop where
  content : t.content = t'.content
  color : t.color = t'.color
  fontStyle : t.fontStyle = t'.fontStyle

theorem sameLook_unexplained (t : Token) : t.SameLook t.unexplained := ⟨rfl, rfl, rfl⟩

end Token

/-! ## The tokens of a line -/

theorem Painter.lineTokens_unexplained (p : Painter) (line : String)
    (unexplained : Option (List ScopedToken)) (pairs : List (Nat × UInt32)) :
    (p.lineTokens line unexplained pairs).map Token.unexplained = p.lineTokens line none pairs := by
  induction pairs generalizing unexplained with
  | nil => rfl
  | cons pair pairs ih =>
    rw [lineTokens, lineTokens]
    split
    next => exact ih unexplained
    next =>
      rw [List.map_cons, ih]
      rfl

/-! ## The splice -/

section Splice

variable (line : String) (t : Token) (start cursor : Nat)

@[simp] theorem Span.fits_unexplained (span : Span) :
    span.fits line t.unexplained start cursor = span.fits line t start cursor := rfl

@[simp] theorem lastPiece_unexplained :
    lastPiece t.unexplained start cursor = (lastPiece t start cursor).map Token.unexplained := by
  unfold lastPiece
  split
  next => rfl
  next =>
    rw [Token.size_unexplained, Token.piece_unexplained]
    split <;> rfl

@[simp] theorem Token.lead_unexplained (span : Span) :
    t.unexplained.lead start cursor span = (t.lead start cursor span).map Token.unexplained := by
  unfold Token.lead
  split <;> rfl

/-- Along one token the same spans are taken and skipped, with the same rules. -/
theorem carve_unexplained (s : Splicer) (spans : List Span) :
    carve line t.unexplained start cursor s spans =
      ((carve line t start cursor s spans).1.map Token.unexplained,
        (carve line t start cursor s spans).2) := by
  induction spans generalizing cursor s with
  | nil => simp [carve]
  | cons span spans ih =>
    by_cases reached : span.start < start + t.size
    · by_cases fits : span.fits line t start cursor
      · rw [carve_of_fits reached fits, carve_of_fits (t := t.unexplained) reached fits, ih]
        simp
      · rw [carve_of_not_fits reached fits, carve_of_not_fits (t := t.unexplained) reached fits, ih]
    · rw [carve_of_ahead reached, carve_of_ahead (t := t.unexplained) reached,
        lastPiece_unexplained]

theorem spliceFrom_unexplained (tokens : List Token) (s : Splicer) (spans : List Span) :
    spliceFrom line start s (tokens.map Token.unexplained) spans =
      ((spliceFrom line start s tokens spans).1.map Token.unexplained,
        (spliceFrom line start s tokens spans).2) := by
  induction tokens generalizing start s spans with
  | nil => rfl
  | cons t ts ih => simp [spliceFrom_cons, carve_unexplained, ih]

end Splice

namespace Session

variable {σ : Type} (g : Grammar σ) (s : Session)

/-- The session without explanations. -/
def unexplaining : Session := { s with explain := false }

/-! ## Documents -/

theorem grammarTokens_unexplaining (line : String) (prior : Option σ) :
    s.unexplaining.grammarTokens g line prior =
      ((s.grammarTokens g line prior).1.map Token.unexplained,
        (s.grammarTokens g line prior).2) := by
  rw [grammarTokens_eq, grammarTokens_eq, s.painter.lineTokens_unexplained]
  rfl

/-- Both runs come to every line with the same splicer, so their sessions differ in the wish for
explanations only. -/
theorem lines_unexplaining (prior : Option σ) (input : List (String × List Span)) :
    lines g s.unexplaining prior input =
      ((lines g s prior input).1.map (List.map Token.unexplained),
        (lines g s prior input).2.unexplaining) := by
  induction input generalizing s prior with
  | nil => rfl
  | cons entry input ih =>
    obtain ⟨line, spans⟩ := entry
    by_cases blank : line = ""
    · rw [lines_blank g _ prior spans input blank, lines_blank g s prior spans input blank, ih]
      rfl
    · rw [lines_text g _ prior spans input blank, lines_text g s prior spans input blank]
      have spliced :
          splice line s.unexplaining.splicer (s.unexplaining.grammarTokens g line prior).1 spans =
          ((splice line s.splicer (s.grammarTokens g line prior).1 spans).1.map Token.unexplained,
            (splice line s.splicer (s.grammarTokens g line prior).1 spans).2) := by
        rw [grammarTokens_unexplaining]
        exact spliceFrom_unexplained line 0 _ s.splicer spans
      have rest :=
        ih { s with splicer := (splice line s.splicer (s.grammarTokens g line prior).1 spans).2 }
        (some (s.grammarTokens g line prior).2)
      dsimp only
      rw [spliced, grammarTokens_unexplaining, List.map_cons]
      exact Prod.ext (congrArg (List.cons _) (congrArg Prod.fst rest :)) (congrArg Prod.snd rest :)

theorem highlight_unexplaining (text language : String) (analyzer : Option Analyzer) :
    s.unexplaining.highlight g text language analyzer =
      (s.highlight g text language analyzer).map fun answer =>
      (answer.1.map (List.map Token.unexplained), answer.2.unexplaining) := by
  rw [highlight_eq_lines, highlight_eq_lines]
  cases spans analyzer text language (splitLines text).length with
  | error failure => rfl
  | ok found => exact congrArg Except.ok (lines_unexplaining g s none _)

/-- Whatever the grammar, the theme, the palette, the text and the analyzer are: a fresh session
that explains its tokens and one that does not fail alike, or give the same tokens for every line,
up to explanations, and count the same spans. The tokens of the latter have no explanations. -/
theorem highlight_with_or_without_explanations (painter : Painter) (g : Grammar σ)
    (text language : String) (analyzer : Option Analyzer) :
    let explained := (fresh painter true).highlight g text language analyzer
    let plain := (fresh painter false).highlight g text language analyzer
    (∃ failure, explained = .error failure ∧ plain = .error failure) ∨
      ∃ lines s lines' s', explained = .ok (lines, s) ∧ plain = .ok (lines', s') ∧
        List.Forall₂ (List.Forall₂ Token.SameLook) lines lines' ∧
        s.splicer.stats = s'.splicer.stats ∧
        ∀ tokens ∈ lines', ∀ t ∈ tokens, t.explanation = none := by
  intro explained plain
  have same : plain = explained.map fun answer =>
      (answer.1.map (List.map Token.unexplained), answer.2.unexplaining) :=
    (fresh painter true).highlight_unexplaining g text language analyzer
  rw [same]
  cases explained with
  | error failure => exact .inl ⟨failure, rfl, rfl⟩
  | ok answer =>
    refine .inr ⟨answer.1, answer.2, _, _, rfl, rfl, ?_, rfl, ?_⟩
    · rw [List.forall₂_map_right_iff, List.forall₂_same]
      intro tokens _
      rw [List.forall₂_map_right_iff, List.forall₂_same]
      exact fun t _ => t.sameLook_unexplained
    · intro tokens mem t inside
      obtain ⟨line, _, rfl⟩ := List.mem_map.mp mem
      obtain ⟨t, _, rfl⟩ := List.mem_map.mp inside
      rfl

end Session

end Highlight
