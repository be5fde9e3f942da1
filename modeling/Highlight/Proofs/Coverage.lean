import Highlight.Highlighter
import Highlight.Proofs.Language.Packing
import Highlight.Proofs.Semantic.Grouping
import Highlight.Proofs.Semantic.Safety

/-!
# Highlighting covers the text

Tokens cover a line when they spell it and all hold text. The tokens of a bound language do so on
every line that its offsets can address (`Session.covers_grammarTokens`), whatever state the lines
before left behind, and a splice keeps it whatever spans it is given (`Covers.splice`). Both
together are one step of a session; a document is a run of such steps, with nothing to show for
empty lines.

A highlighter answers whenever the language is known and the analyzer, if there is one, does
(`tokens_cover`).
-/

namespace Highlight

/-- The tokens spell the line, and none of them is empty. -/
structure Covers (line : String) (tokens : List Token) : Prop where
  spells : spelled tokens = line
  filled : ∀ t ∈ tokens, t.content ≠ ""

namespace Covers

variable {line : String} {tokens : List Token}

theorem nil : Covers "" [] := ⟨rfl, fun _ mem => nomatch mem⟩

theorem eq_nil (covers : Covers line tokens) (blank : line = "") : tokens = [] :=
  eq_nil_of_spelled_empty covers.filled (covers.spells.trans blank)

theorem splice (covers : Covers line tokens) (s : Splicer) (spans : List Span) :
    Covers line (splice line s tokens spans).1 := by
  refine ⟨(spelled_spliceFrom line tokens 0 s spans).trans covers.spells, ?_⟩
  have none : blanks tokens = [] := blanks_eq_nil_iff.mpr covers.filled
  exact blanks_eq_nil_iff.mp ((blanks_spliceFrom line tokens 0 s spans).trans none)

end Covers

namespace Session

theorem covers_grammarTokens (s : Session) (b : BoundLanguage) {line : String} (filled : line ≠ "")
    (short : byteSize line < 2 ^ 32) (prior : Option LineState) :
    Covers line (s.grammarTokens b.grammar line prior).1 := by
  obtain ⟨word, pairs, shape, ordered, boundaries⟩ := b.exists_wordPairs filled short prior
  rw [grammarTokens_eq, shape]
  refine ⟨?_, s.painter.lineTokens_filled _ _⟩
  have all :=
    s.painter.slice?_lineTokens (if s.explain then some (b.grammar.tokens line prior).1 else none)
    ordered boundaries
  rw [slice?_all] at all
  exact (Option.some.inj all).symm

/-- What holds of the grammar's tokens for every line holds along a document, since a splice keeps
it. The induction is on the lines; the session and the state vary, so nothing is asked of them. -/
theorem lines_cover {σ : Type} {g : Grammar σ}
    (covers : ∀ (s : Session) (line : String) (prior : Option σ),
      line ≠ "" → byteSize line < 2 ^ 32 → Covers line (s.grammarTokens g line prior).1)
    {input : List (String × List Span)} :
    ∀ (s : Session) (prior : Option σ), (∀ entry ∈ input, byteSize entry.1 < 2 ^ 32) →
      List.Forall₂ (fun entry tokens => Covers entry.1 tokens) input (lines g s prior input).1 := by
  induction input with
  | nil => exact fun s prior _ => .nil
  | cons entry input ih =>
    intro s prior short
    have later : ∀ other ∈ input, byteSize other.1 < 2 ^ 32 :=
      fun other mem => short other (List.mem_cons_of_mem _ mem)
    obtain ⟨line, spans⟩ := entry
    by_cases blank : line = ""
    · rw [lines_blank g s prior spans input blank]
      refine .cons ?_ (ih s prior later)
      rw [blank]
      exact .nil
    · have covered := covers s line prior blank (short (line, spans) List.mem_cons_self)
      rw [lines_text g s prior spans input blank]
      exact .cons (covered.splice _ _) (ih _ _ later)

/-- Every line has its spans, where the analyzer answers at all. -/
theorem exists_spans {analyzer : Option Analyzer} {text language : String} (lineCount : Nat)
    (succeeds : ∀ analyze ∈ analyzer, ∃ file records,
      SourceFile.ofDocument text language = .ok file ∧ analyze file = .ok records) :
    ∃ found, spans analyzer text language lineCount = .ok found ∧ found.length = lineCount := by
  cases analyzer with
  | none => exact ⟨_, rfl, List.length_replicate⟩
  | some analyze =>
    obtain ⟨file, records, written, analyzed⟩ := succeeds analyze rfl
    refine ⟨groupByLine records lineCount, ?_, length_groupByLine records lineCount⟩
    simp only [spans, written, analyzed, bind, Except.bind, pure, Except.pure]

/-- A document is highlighted line by line, and every line is covered. -/
theorem highlight_covers {σ : Type} (s : Session) {g : Grammar σ}
    (covers : ∀ (s : Session) (line : String) (prior : Option σ),
      line ≠ "" → byteSize line < 2 ^ 32 → Covers line (s.grammarTokens g line prior).1)
    {analyzer : Option Analyzer} {text language : String}
    (short : ∀ line ∈ splitLines text, byteSize line < 2 ^ 32)
    (succeeds : ∀ analyze ∈ analyzer, ∃ file records,
      SourceFile.ofDocument text language = .ok file ∧ analyze file = .ok records) :
    ∃ answer, s.highlight g text language analyzer = .ok answer ∧
      List.Forall₂ Covers (splitLines text) answer.1 := by
  obtain ⟨found, located, size⟩ := exists_spans (splitLines text).length succeeds
  have paired : ((splitLines text).zip found).map Prod.fst = splitLines text :=
    List.map_fst_zip (Nat.le_of_eq size.symm)
  refine ⟨lines g s none ((splitLines text).zip found), ?_, ?_⟩
  · rw [highlight_eq_lines, located]
    rfl
  · rw [← paired, List.forall₂_map_left_iff, paired]
    refine lines_cover covers s none fun entry mem => short entry.1 ?_
    rw [← paired]
    exact List.mem_map_of_mem mem

end Session

/-- Whatever the theme, the languages, the text and the spans of the analyzer are: a known language
is highlighted with one list of tokens for each line. On every line they cover it, and an empty line
has none. -/
theorem Highlighter.tokens_cover (h : Highlighter) {text language : String}
    {analyzer : Option Analyzer} (known : (h.registry.language? language).isSome)
    (short : ∀ line ∈ splitLines text, byteSize line < 2 ^ 32)
    (succeeds : ∀ analyze ∈ analyzer, ∃ file records,
      SourceFile.ofDocument text language = .ok file ∧ analyze file = .ok records) :
    ∃ lines, h.tokens text language analyzer = .ok lines ∧ lines.length = (splitLines text).length ∧
      List.Forall₂ (fun line tokens => spelled tokens = line ∧ (∀ t ∈ tokens, t.content ≠ "") ∧
        (line = "" → tokens = [])) (splitLines text) lines := by
  obtain ⟨l, resolved⟩ := Option.isSome_iff_exists.mp known
  have found : h.registry.language language = .ok l := by rw [Registry.language, resolved]
  let session := Session.ofTheme h.theme h.explain
  let bound : BoundLanguage := ⟨l, h.theme, session.painter.palette⟩
  obtain ⟨answer, highlighted, covers⟩ := session.highlight_covers
    (fun s line prior filled => (s.covers_grammarTokens bound filled · prior)) short succeeds
  refine ⟨answer.1, ?_, covers.length_eq.symm,
    covers.imp fun line tokens h => ⟨h.spells, h.filled, h.eq_nil⟩⟩
  simp only [tokens, found, bind, Except.bind, pure, Except.pure]
  rw [highlighted]

/-- An accented line, an empty one and one behind an open comment that any text closes, with
explanations, and an analyzer whose records lie out of order, on missing lines, across a character
and past the end. -/
theorem Highlighter.tokens_cover_analyzed :
    let comment : Construct :=
      ⟨"comment", Pattern.regex (.set (.single '#')), Pattern.regex .empty, .blockComment,
        some '\\', 7⟩
    let number : PatternRule :=
      ⟨"number", Pattern.regex (.many (.set .digit) ⟨1, none, true⟩), .number, 5⟩
    let theme : Theme := ⟨"plain", none, none, [⟨none, ⟨["comment"]⟩, ⟨some "#0f0", none, {}⟩⟩]⟩
    let l : Language :=
      { Language.new "t" "T" "t" with patterns := [number], constructs := [comment] }
    let h : Highlighter := ⟨theme, Registry.empty.add l, true, none⟩
    let records : List SemanticRecord :=
      [⟨2, ⟨1, 2, ["comment"]⟩⟩, ⟨0, ⟨1, 2, ["comment"]⟩⟩, ⟨9, ⟨0, 1, ["comment"]⟩⟩,
        ⟨0, ⟨0, 2, []⟩⟩,
        ⟨0, ⟨2 ^ 64 - 1, 3, ["comment"]⟩⟩, ⟨2, ⟨0, 2 ^ 64 - 1, ["comment"]⟩⟩]
    (h.registry.language? "T").isSome ∧ splitLines "é1#\n\n#a" = ["é1#", "", "#a"] ∧
      ∃ lines, h.tokens "é1#\n\n#a" "T" (some (.fixed records)) = .ok lines ∧
        lines.length = (splitLines "é1#\n\n#a").length ∧
        List.Forall₂ (fun line tokens => spelled tokens = line ∧ (∀ t ∈ tokens, t.content ≠ "") ∧
          (line = "" → tokens = [])) (splitLines "é1#\n\n#a") lines := by
  intro comment number theme l h records
  have known : (h.registry.language? "T").isSome := by decide +kernel
  have split : splitLines "é1#\n\n#a" = ["é1#", "", "#a"] := by decide
  have writable : SourceFile.isWritable (SourceFile.nameOf "é1#\n\n#a" "T") := by decide +kernel
  refine ⟨known, split, tokens_cover h known ?_ ?_⟩
  · rw [split]
    decide
  · intro analyze fixed
    cases fixed
    exact ⟨_, records, if_pos writable, rfl⟩

end Highlight
