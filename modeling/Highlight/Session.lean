import Highlight.Grammar.Inquiry
import Highlight.Semantic.Splice
import Highlight.Source.File
import Highlight.Text.Lines
import Highlight.Token.Line

/-!
# Highlighting sessions

A session highlights documents with one theme, one after the other. Between documents it keeps what
has been learnt about the theme's rules, which changes no result, and the counts of spliced spans. A
document is read line by line; empty lines have no tokens and leave the grammar's state as it is.

With an analyzer, the document is first written to a file and analyzed as a whole. If that fails, so
does the document, and the session stays as it was.

What a session asks a grammar for is an inquiry, and its result is what the grammar answers.
-/

namespace Highlight

/-- Finds semantic records in a file. -/
abbrev Analyzer := SourceFile → Except Failure (List SemanticRecord)

namespace Analyzer

/-- The analyzer that gives the same records for every file. -/
def fixed (records : List SemanticRecord) : Analyzer := fun _ => .ok records

/-- The analyzer that gives the same report for every file. -/
def reporting (report : String) : Analyzer := fun _ => SemanticRecord.parseReport report

end Analyzer

/-- A session: how tokens are painted, whether they are explained, and what splicing carries on. -/
structure Session where
  painter : Painter
  explain : Bool := false
  splicer : Splicer

namespace Session

/-- A fresh session for a theme. -/
def ofTheme (theme : Theme) (explain : Bool) : Session where
  painter := .ofTheme theme
  explain := explain
  splicer := { matcher := { rules := theme.rules } }

/-- Asks for one line: for its words, and for its tokens if they are to be explained. -/
def askLine {σ : Type} (s : Session) (line : String) (prior : Option σ) :
    Inquiry σ (List Token × σ) := do
  let (words, state) ← .words line prior pure
  let scopedTokens ←
    if s.explain then .tokens line prior fun read => pure (some read.1) else pure none
  return (s.painter.lineTokens line scopedTokens (wordPairs words), state)

/-- Asks for the remaining lines of a document, each with its semantic spans. -/
def askLines {σ : Type} : Session → Option σ → List (String × List Span) →
    Inquiry σ (List (List Token) × Session)
  | s, _, [] => pure ([], s)
  | s, prior, (line, spans) :: rest =>
    if line.isEmpty then do
      let (others, s) ← askLines s prior rest
      return ([] :: others, s)
    else do
      let (tokens, state) ← s.askLine line prior
      let (tokens, splicer) := splice line s.splicer tokens spans
      let (others, s) ← askLines { s with splicer } (some state) rest
      return (tokens :: others, s)

/-- The tokens of one line as the grammar has them, and the state behind it. -/
def grammarTokens {σ : Type} (s : Session) (g : Grammar σ) (line : String) (prior : Option σ) :
    List Token × σ :=
  (s.askLine line prior).answer g

theorem grammarTokens_eq {σ : Type} (s : Session) (g : Grammar σ) (line : String)
    (prior : Option σ) : s.grammarTokens g line prior =
      (s.painter.lineTokens line (if s.explain then some (g.tokens line prior).1 else none)
        (wordPairs (g.words line prior).1), (g.words line prior).2) := by
  unfold grammarTokens askLine
  cases s.explain <;> rfl

/-- Highlights the remaining lines of a document, each with its semantic spans. -/
def lines {σ : Type} (g : Grammar σ) (s : Session) (prior : Option σ)
    (input : List (String × List Span)) : List (List Token) × Session :=
  (askLines s prior input).answer g

section Lines

variable {σ : Type} (g : Grammar σ) (s : Session) (prior : Option σ) {line : String}
  (spans : List Span) (rest : List (String × List Span))

theorem lines_blank (blank : line = "") : lines g s prior ((line, spans) :: rest) =
    ([] :: (lines g s prior rest).1, (lines g s prior rest).2) := by
  rw [lines, askLines, if_pos (by simpa using blank)]
  simp only [Inquiry.answer_bind, Inquiry.answer_pure, lines]

/-- A line with text is read by the grammar and spliced, and the rest goes on with the state and the
splicer. -/
theorem lines_text (text : line ≠ "") :
    let read := s.grammarTokens g line prior
    let spliced := splice line s.splicer read.1 spans
    let later := lines g { s with splicer := spliced.2 } (some read.2) rest
    lines g s prior ((line, spans) :: rest) = (spliced.1 :: later.1, later.2) := by
  rw [lines, askLines, if_neg (by simpa using text)]
  simp only [Inquiry.answer_bind, Inquiry.answer_pure, lines, grammarTokens]

end Lines

/-- The semantic spans of each of a document's lines; none without an analyzer. -/
def spans (analyzer : Option Analyzer) (text language : String) (lineCount : Nat) :
    Except Failure (List (List Span)) :=
  match analyzer with
  | none => .ok (List.replicate lineCount [])
  | some analyze => do
    let file ← SourceFile.ofDocument text language
    let records ← analyze file
    return groupByLine records lineCount

/-- Asks for a document. Whether this fails is settled before the grammar is asked. `language` is
the name under which an analyzer sees the file. -/
def ask {σ : Type} (s : Session) (text language : String) (analyzer : Option Analyzer) :
    Except Failure (Inquiry σ (List (List Token) × Session)) := do
  let ls := splitLines text
  let spans ← spans analyzer text language ls.length
  return askLines s none (ls.zip spans)

/-- Highlights a document. -/
def highlight {σ : Type} (s : Session) (g : Grammar σ) (text language : String)
    (analyzer : Option Analyzer) : Except Failure (List (List Token) × Session) :=
  (s.ask text language analyzer).map (·.answer g)

/-- A document is highlighted line by line with the spans of its lines, once these are known. -/
theorem highlight_eq_lines {σ : Type} (s : Session) (g : Grammar σ) (text language : String)
    (analyzer : Option Analyzer) : s.highlight g text language analyzer =
      (spans analyzer text language (splitLines text).length).map fun found =>
        lines g s none ((splitLines text).zip found) := by
  unfold highlight ask
  dsimp only
  cases spans analyzer text language (splitLines text).length <;> rfl

end Session

/-- The states that a grammar has before each line of a document that is not empty. -/
def Grammar.priors {σ : Type} (g : Grammar σ) : Option σ → List String → List (Option σ)
  | _, [] => []
  | prior, line :: rest =>
    if line.isEmpty then g.priors prior rest
    else prior :: g.priors (some (g.words line prior).2) rest

end Highlight
