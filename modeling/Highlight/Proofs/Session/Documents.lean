import Highlight.Proofs.Semantic.Grouping
import Highlight.Proofs.Semantic.Splicing
import Highlight.Proofs.Theme.Folding
import Highlight.Session
import Mathlib.Algebra.BigOperators.Group.Finset.Piecewise
import Mathlib.Algebra.Ring.Nat

/-!
# Sessions do not leak between documents

A session lives on from document to document: its matcher remembers answers, and its counts grow.
What holds between two documents is `Session.Ready`: the session paints as at first, and its matcher
remembers only right answers. A splice answers the same for all such matchers
(`spliceFrom_eq_of_sound`), hence so does a document (`Ready.lines_eq`), and each keeps the session
ready.

`attempt` is one document as a program that works on the session in place and may fail on the way;
nothing rolls the session back. A sequence of attempts answers as fresh sessions would, each
document on its own, and counts every record of an analyzer that names a line with text
(`attemptAll_independent`).
-/

namespace Highlight

/-! ## A splice answers the same whatever is remembered -/

/-- The look that a rule gives is known from its colors in upper case. -/
theorem Rule.paint_eq_of_folded {r r' : Rule} (same : r.folded = r'.folded) :
    r.paint = r'.paint := by
  have color : r.style.foreground.map upperColor = r'.style.foreground.map upperColor :=
    congrArg (·.style.foreground) same
  have style : r.style.fontStyle = r'.style.fontStyle := congrArg (·.style.fontStyle) same
  unfold Rule.paint
  rw [color, style]

section Splicing

variable {rules rules' : List Rule} {s s' : Splicer}

/-- Rules of one essence paint a span alike, whatever is remembered of them. -/
theorem Splicer.paint_rule_eq (alike : Theme.essence rules = Theme.essence rules')
    (right : s.matcher.Sound rules) (right' : s'.matcher.Sound rules') (span : Span) :
    (s.rule span).paint = (s'.rule span).paint := by
  have same := Theme.bestRuleOfAny?_folded_eq alike span.scopes
  rw [← (right.bestOfAny span.scopes).1, ← (right'.bestOfAny span.scopes).1] at same
  apply Rule.paint_eq_of_folded
  unfold Splicer.rule
  cases found : (s.matcher.bestOfAny span.scopes).1 with
  | none =>
    cases found' : (s'.matcher.bestOfAny span.scopes).1 with
    | none => rfl
    | some hit' => simp [found, found'] at same
  | some hit =>
    cases found' : (s'.matcher.bestOfAny span.scopes).1 with
    | none => simp [found, found'] at same
    | some hit' => simpa [found, found'] using same

theorem carve_eq_of_sound (alike : Theme.essence rules = Theme.essence rules') (line : String)
    (t : Token) (start cursor : Nat) (spans : List Span) (right : s.matcher.Sound rules)
    (right' : s'.matcher.Sound rules') :
    (carve line t start cursor s spans).1 = (carve line t start cursor s' spans).1 ∧
      (carve line t start cursor s spans).2.1 = (carve line t start cursor s' spans).2.1 := by
  induction spans generalizing cursor s s' with
  | nil => exact ⟨rfl, rfl⟩
  | cons span spans ih =>
    by_cases reached : span.start < start + t.size
    · by_cases fits : span.fits line t start cursor
      · have taken : (s.take span).matcher.Sound rules := (right.bestOfAny span.scopes).2
        have taken' : (s'.take span).matcher.Sound rules' := (right'.bestOfAny span.scopes).2
        obtain ⟨pieces, rest⟩ := ih span.stop taken taken'
        rw [carve_of_fits reached fits, carve_of_fits reached fits, Token.painted_eq,
          Token.painted_eq, Splicer.paint_rule_eq alike right right' span, pieces]
        exact ⟨rfl, rest⟩
      · have skipped : (s.countSkipped 1).matcher.Sound rules := right
        have skipped' : (s'.countSkipped 1).matcher.Sound rules' := right'
        rw [carve_of_not_fits reached fits, carve_of_not_fits reached fits]
        exact ih cursor skipped skipped'
    · rw [carve_of_ahead reached, carve_of_ahead reached]
      exact ⟨rfl, rfl⟩

theorem spliceFrom_eq_of_sound (alike : Theme.essence rules = Theme.essence rules') (line : String)
    (start : Nat) (tokens : List Token) (spans : List Span) (right : s.matcher.Sound rules)
    (right' : s'.matcher.Sound rules') :
    (spliceFrom line start s tokens spans).1 = (spliceFrom line start s' tokens spans).1 := by
  induction tokens generalizing start s s' spans with
  | nil => rfl
  | cons t ts ih =>
    obtain ⟨pieces, rest⟩ := carve_eq_of_sound alike line t start start spans right right'
    have others := ih (start + t.size) (carve line t start start s spans).2.1
      ((carves line t start start s spans).sound right)
      ((carves line t start start s' spans).sound right')
    rw [spliceFrom_cons, spliceFrom_cons, others, pieces, rest]

theorem spliceFrom_sound (line : String) (start : Nat) (tokens : List Token) (spans : List Span)
    (right : s.matcher.Sound rules) :
    (spliceFrom line start s tokens spans).2.matcher.Sound rules := by
  induction tokens generalizing start s spans with
  | nil => exact right
  | cons t ts ih => exact ih _ _ ((carves line t start start s spans).sound right)

end Splicing

namespace Session

/-- The session paints like this, and its matcher remembers only right answers for the theme. -/
structure Ready (painter : Painter) (explain : Bool) (s : Session) : Prop where
  painter_eq : s.painter = painter
  explain_eq : s.explain = explain
  sound : s.splicer.matcher.Sound painter.theme.rules

/-- The session that has seen no document, for any theme and any palette. -/
def fresh (painter : Painter) (explain : Bool) : Session where
  painter := painter
  explain := explain
  splicer := { matcher := { rules := painter.theme.rules } }

theorem ready_fresh (painter : Painter) (explain : Bool) :
    Ready painter explain (fresh painter explain) :=
  ⟨rfl, rfl, Matcher.sound_fresh _⟩

namespace Ready

variable {painter : Painter} {explain : Bool} {s s' : Session}

theorem splice (ready : Ready painter explain s) (line : String) (tokens : List Token)
    (spans : List Span) :
    Ready painter explain { s with splicer := (splice line s.splicer tokens spans).2 } :=
  ⟨ready.painter_eq, ready.explain_eq, spliceFrom_sound line 0 tokens spans ready.sound⟩

theorem lines {σ : Type} (ready : Ready painter explain s) (g : Grammar σ) (prior : Option σ)
    (input : List (String × List Span)) : Ready painter explain (lines g s prior input).2 := by
  induction input generalizing s prior with
  | nil => exact ready
  | cons entry input ih =>
    obtain ⟨line, spans⟩ := entry
    by_cases blank : line = ""
    · rw [lines_blank g s prior spans input blank]
      exact ih ready prior
    · rw [lines_text g s prior spans input blank]
      exact ih (ready.splice _ _ _) _

theorem grammarTokens_eq {σ : Type} (ready : Ready painter explain s)
    (ready' : Ready painter explain s') (g : Grammar σ) (line : String) (prior : Option σ) :
    s.grammarTokens g line prior = s'.grammarTokens g line prior := by
  rw [s.grammarTokens_eq, s'.grammarTokens_eq, ready.painter_eq, ready'.painter_eq,
    ready.explain_eq, ready'.explain_eq]

/-- Two runs over the same lines and spans give the same tokens where the grammar's tokens are the
same and the themes' rules say the same of scopes, whatever the sessions remember. -/
theorem lines_eq_of_alike {σ : Type} {painter' : Painter} {explain' : Bool}
    (ready : Ready painter explain s) (ready' : Ready painter' explain' s')
    (alike : Theme.essence painter.theme.rules = Theme.essence painter'.theme.rules)
    {g g' : Grammar σ}
    (same : ∀ (line : String) (prior : Option σ),
      (fresh painter explain).grammarTokens g line prior =
        (fresh painter' explain').grammarTokens g' line prior)
    (prior : Option σ) (input : List (String × List Span)) :
    (Session.lines g s prior input).1 = (Session.lines g' s' prior input).1 := by
  induction input generalizing s s' prior with
  | nil => rfl
  | cons entry input ih =>
    obtain ⟨line, spans⟩ := entry
    by_cases blank : line = ""
    · rw [lines_blank g s prior spans input blank, lines_blank g' s' prior spans input blank,
        ih ready ready' prior]
    · have read : s.grammarTokens g line prior = s'.grammarTokens g' line prior := by
        rw [ready.grammarTokens_eq (ready_fresh painter explain),
          ready'.grammarTokens_eq (ready_fresh painter' explain'), same]
      rw [lines_text g s prior spans input blank, lines_text g' s' prior spans input blank, read]
      dsimp only
      rw [ih (ready.splice _ _ _) (ready'.splice _ _ _)]
      exact congrArg (List.cons · _)
        (spliceFrom_eq_of_sound alike line 0 _ spans ready.sound ready'.sound)

/-- The tokens of a document are the same in all sessions that paint alike. -/
theorem lines_eq {σ : Type} (ready : Ready painter explain s) (ready' : Ready painter explain s')
    (g : Grammar σ) (prior : Option σ) (input : List (String × List Span)) :
    (Session.lines g s prior input).1 = (Session.lines g s' prior input).1 :=
  ready.lines_eq_of_alike ready' rfl (fun _ _ => rfl) prior input

end Ready

/-! ## The spans of a document -/

/-- How many of a document's spans lie on lines with text. -/
def spanCount (input : List (String × List Span)) : Nat :=
  (input.map fun entry => if entry.1 = "" then 0 else entry.2.length).sum

/-- Every span on a line with text is applied or skipped; no other span is counted. -/
theorem lines_count {σ : Type} (g : Grammar σ) (s : Session) (prior : Option σ)
    (input : List (String × List Span)) :
    (lines g s prior input).2.splicer.stats.applied +
      (lines g s prior input).2.splicer.stats.skipped =
      s.splicer.stats.applied + s.splicer.stats.skipped + spanCount input := by
  induction input generalizing s prior with
  | nil => rfl
  | cons entry input ih =>
    obtain ⟨line, spans⟩ := entry
    rw [spanCount, List.map_cons, List.sum_cons, ← spanCount]
    by_cases blank : line = ""
    · rw [lines_blank g s prior spans input blank, if_pos blank, Nat.zero_add]
      exact ih s prior
    · rw [lines_text g s prior spans input blank, if_neg blank, ← Nat.add_assoc,
        ← spliceFrom_count line (s.grammarTokens g line prior).1 0 s.splicer spans]
      exact ih _ _

/-- Records sorted by line, and counted line by line where `filled` holds, are those that name such
a line. -/
theorem sum_countP_line (records : List SemanticRecord) (filled : Nat → Bool) (n : Nat) :
    ∑ l ∈ Finset.range n, (if filled l then records.countP (·.line == l) else 0) =
      records.countP fun r => decide (r.line < n) && filled r.line := by
  induction records with
  | nil => simp
  | cons r records ih =>
    have one : ∑ l ∈ Finset.range n, (if r.line = l then if filled l then 1 else 0 else 0) =
        if decide (r.line < n) && filled r.line then 1 else 0 := by
      rw [Finset.sum_ite_eq]
      by_cases low : r.line < n <;> simp [low]
    rw [List.countP_cons, ← ih, ← one, ← Finset.sum_add_distrib]
    refine Finset.sum_congr rfl fun l _ => ?_
    rw [List.countP_cons]
    cases filled l <;> simp

/-- The lines of a document with their spans, by number. -/
theorem zip_groupByLine (ls : List String) (records : List SemanticRecord) :
    ls.zip (groupByLine records ls.length) = (List.range ls.length).map fun l =>
      (ls.getD l "",
        ((records.filter (·.line == l)).map (·.span)).mergeSort fun a b => a.start ≤ b.start) := by
  apply List.ext_getElem
  · simp
  · intro i low high
    have inside : i < ls.length := by simpa using high
    simp [groupByLine_eq, inside]

/-- Of the records of an analyzer those count that name a line with text. -/
theorem spanCount_groupByLine (ls : List String) (records : List SemanticRecord) :
    spanCount (ls.zip (groupByLine records ls.length)) =
      records.countP fun r => ls[r.line]?.any (· ≠ "") := by
  have byLine : spanCount (ls.zip (groupByLine records ls.length)) = ∑ l ∈ Finset.range ls.length,
      (if ls.getD l "" = "" then 0
        else (((records.filter (·.line == l)).map (·.span)).mergeSort
          fun a b => a.start ≤ b.start).length) := by
    rw [zip_groupByLine, spanCount, List.map_map]
    rfl
  have counted := sum_countP_line records (fun l => ls.getD l "" ≠ "") ls.length
  calc spanCount (ls.zip (groupByLine records ls.length))
      = ∑ l ∈ Finset.range ls.length,
        (if ls.getD l "" ≠ "" then records.countP (·.line == l) else 0) := by
        rw [byLine]
        refine Finset.sum_congr rfl fun l _ => ?_
        rw [List.length_mergeSort, List.length_map, ← List.countP_eq_length_filter, ite_not]
    _ = records.countP fun r => decide (r.line < ls.length) && decide (ls.getD r.line "" ≠ "") := by
        simpa only [decide_eq_true_eq] using counted
    _ = records.countP fun r => ls[r.line]?.any (· ≠ "") := by
        congr 1
        funext r
        by_cases low : r.line < ls.length <;> simp [low]

end Session

/-! ## Sequences of documents -/

/-- A document: its grammar, its text, the name of its language for the analyzer, and the
analyzer. -/
structure Document where
  State : Type
  grammar : Grammar State
  text : String
  language : String
  analyzer : Option Analyzer := none

namespace Document

/-- What the analyzer finds in the document's file; nothing without an analyzer. -/
def records (d : Document) : Except Failure (List SemanticRecord) :=
  match d.analyzer with
  | none => .ok []
  | some analyze => do analyze (← SourceFile.ofDocument d.text d.language)

/-- How many records name a line of the document that has text; none where the document fails. -/
def load (d : Document) : Nat :=
  match d.records with
  | .ok records => records.countP fun r => (splitLines d.text)[r.line]?.any (· ≠ "")
  | .error _ => 0

theorem spans_eq (d : Document) (lineCount : Nat) :
    Session.spans d.analyzer d.text d.language lineCount =
      d.records.map (groupByLine · lineCount) := by
  unfold Session.spans records
  cases d.analyzer with
  | none => simp [Except.map, groupByLine_eq, List.map_const']
  | some analyze =>
    cases written : SourceFile.ofDocument d.text d.language with
    | error failure => rfl
    | ok file => cases analyze file <;> rfl

end Document

namespace Session

/-- Highlights a document in a session that is worked on in place: a failure leaves it as it is at
that time. -/
def attempt (d : Document) : ExceptT Failure (StateM Session) (List (List Token)) := do
  let ls := splitLines d.text
  let found ← liftExcept (spans d.analyzer d.text d.language ls.length)
  modifyGet fun s => lines d.grammar s none (ls.zip found)

/-- Highlights documents one after the other, whether or not those before failed. -/
def attemptAll (docs : List Document) :
    StateM Session (List (Except Failure (List (List Token)))) :=
  docs.mapM fun d => (attempt d).run

theorem attempt_run (d : Document) (s : Session) :
    (attempt d).run.run s =
      match s.highlight d.grammar d.text d.language d.analyzer with
      | .ok (tokens, s') => (.ok tokens, s')
      | .error failure => (.error failure, s) := by
  rw [highlight_eq_lines]
  unfold attempt
  dsimp only
  cases spans d.analyzer d.text d.language (splitLines d.text).length <;> rfl

theorem attemptAll_cons (d : Document) (docs : List Document) (s : Session) :
    let one := (attempt d).run.run s
    let later := (attemptAll docs).run one.2
    (attemptAll (d :: docs)).run s = (one.1 :: later.1, later.2) := by
  simp only [attemptAll, List.mapM_cons]
  rfl

theorem highlight_eq (s : Session) (d : Document) :
    s.highlight d.grammar d.text d.language d.analyzer = d.records.map fun records =>
      lines d.grammar s none
        ((splitLines d.text).zip (groupByLine records (splitLines d.text).length)) := by
  rw [highlight_eq_lines, d.spans_eq]
  cases d.records <;> rfl

/-- A document fails where its file cannot be written or its analyzer fails, and nowhere else. -/
theorem isOk_highlight (s : Session) (d : Document) :
    d.records.isOk = (s.highlight d.grammar d.text d.language d.analyzer).isOk := by
  rw [highlight_eq]
  cases d.records <;> rfl

theorem attempt_of_error {d : Document} {s : Session} {failure : Failure}
    (failed : ((attempt d).run.run s).1 = .error failure) : ((attempt d).run.run s).2 = s := by
  rw [attempt_run] at failed ⊢
  split at failed
  next => cases failed
  next => rfl

/-- The answer to a document in a session of its own. -/
def alone (painter : Painter) (explain : Bool) (d : Document) :
    Except Failure (List (List Token)) :=
  ((fresh painter explain).highlight d.grammar d.text d.language d.analyzer).map Prod.fst

namespace Ready

variable {painter : Painter} {explain : Bool} {s : Session}

/-- One document in a session that others have used: it is answered as in a fresh one, the session
stays ready, and the counts grow by the document's load. -/
theorem attempt (ready : Ready painter explain s) (d : Document) :
    let after := (attempt d).run.run s
    after.1 = alone painter explain d ∧ Ready painter explain after.2 ∧
      after.2.splicer.stats.applied + after.2.splicer.stats.skipped =
        s.splicer.stats.applied + s.splicer.stats.skipped + d.load := by
  rw [attempt_run, alone, highlight_eq, highlight_eq, Document.load]
  cases d.records with
  | error failure => exact ⟨rfl, ready, rfl⟩
  | ok records =>
    refine ⟨congrArg Except.ok (ready.lines_eq (ready_fresh painter explain) _ _ _),
      ready.lines _ _ _, ?_⟩
    dsimp only
    rw [← spanCount_groupByLine]
    exact lines_count _ _ _ _

/-- The same for a sequence of documents. -/
theorem attemptAll (ready : Ready painter explain s) (docs : List Document) :
    let after := (attemptAll docs).run s
    after.1 = docs.map (alone painter explain) ∧ Ready painter explain after.2 ∧
      after.2.splicer.stats.applied + after.2.splicer.stats.skipped =
        s.splicer.stats.applied + s.splicer.stats.skipped + (docs.map Document.load).sum := by
  induction docs generalizing s with
  | nil => exact ⟨rfl, ready, rfl⟩
  | cons d docs ih =>
    obtain ⟨answer, kept, counted⟩ := ready.attempt d
    obtain ⟨answers, kept', counted'⟩ := ih kept
    rw [attemptAll_cons]
    refine ⟨congrArg₂ List.cons answer answers, kept', ?_⟩
    rw [List.map_cons, List.sum_cons, ← Nat.add_assoc, ← counted]
    exact counted'

end Ready

/-- Whatever the theme, the palette and the documents are: in one session every document gets the
answer that it has in a session of its own, a document that fails changes nothing in the session,
and the counts add up to the records that name lines with text. -/
theorem attemptAll_independent (painter : Painter) (explain : Bool) (docs : List Document) :
    let first := fresh painter explain
    let ran := (attemptAll docs).run first
    ran.1 =
      docs.map (fun d => (first.highlight d.grammar d.text d.language d.analyzer).map Prod.fst) ∧
      (∀ (d : Document) (failure : Failure), ((attempt d).run.run ran.2).1 = .error failure →
        ((attempt d).run.run ran.2).2 = ran.2) ∧
      (∀ d : Document,
        d.records.isOk = (first.highlight d.grammar d.text d.language d.analyzer).isOk) ∧
      ran.2.splicer.stats.applied + ran.2.splicer.stats.skipped = (docs.map Document.load).sum := by
  intro first ran
  obtain ⟨answers, _, counted⟩ := (ready_fresh painter explain).attemptAll docs
  refine ⟨answers, fun d failure => attempt_of_error, fun d => first.isOk_highlight d, ?_⟩
  have none : first.splicer.stats.applied + first.splicer.stats.skipped = 0 := rfl
  rw [counted, none, Nat.zero_add]

/-- Two documents that an analyzer finds something in, on a blank line and on a missing one too, and
between them one whose analyzer fails, one whose file has no possible name, and one of another
grammar without an analyzer. -/
theorem attemptAll_independent_mixed :
    let painter : Painter :=
      .ofTheme ⟨"plain", none, none, [⟨none, ⟨["comment"]⟩, ⟨some "#0f0", none, {}⟩⟩]⟩
    let counting : Grammar Nat := ⟨fun _ n => ([], n.getD 0 + 1), fun _ n => ([0, 1], n.getD 0 + 1)⟩
    let plain : Grammar Unit := ⟨fun _ _ => ([], ()), fun _ _ => ([0, 2], ())⟩
    let records : List SemanticRecord :=
      [⟨2, ⟨0, 9, ["comment"]⟩⟩, ⟨0, ⟨1, 2, ["comment.line", "comment"]⟩⟩, ⟨1, ⟨0, 1, ["comment"]⟩⟩,
        ⟨7, ⟨0, 1, ["comment"]⟩⟩]
    let found : Document := ⟨Nat, counting, "ab\r\n\ncd", "t", some (.fixed records)⟩
    let broken : Document := ⟨Nat, counting, "ab", "t", some (.reporting "[")⟩
    let unnamed : Document := ⟨Nat, counting, "ab", "a/b", some (.fixed records)⟩
    let docs := [found, broken, unnamed, ⟨Unit, plain, "ab", "t", none⟩, found]
    let first := fresh painter true
    let ran := (attemptAll docs).run first
    docs.map Document.load = [2, 0, 0, 0, 2] ∧
      ran.1 =
        docs.map (fun d => (first.highlight d.grammar d.text d.language d.analyzer).map Prod.fst) ∧
      ((attempt broken).run.run ran.2).2 = ran.2 ∧
      ran.2.splicer.stats.applied + ran.2.splicer.stats.skipped = 4 := by
  intro painter counting plain records found broken unnamed docs first ran
  have loads : docs.map Document.load = [2, 0, 0, 0, 2] := by decide +kernel
  have refused : broken.records = .error (.analyzer .undecodable) := by decide +kernel
  have failed : ((attempt broken).run.run ran.2).1 = .error (.analyzer .undecodable) := by
    rw [attempt_run, highlight_eq, refused]
    rfl
  obtain ⟨answers, unchanged, _, counted⟩ := attemptAll_independent painter true docs
  refine ⟨loads, answers, unchanged broken _ failed, ?_⟩
  rw [counted, loads]
  rfl

end Session

end Highlight
