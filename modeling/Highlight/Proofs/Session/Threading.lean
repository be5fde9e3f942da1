import Highlight.Proofs.Session.Documents
import Highlight.Proofs.Text.Breaks
import Mathlib.Data.List.Forall2

/-!
# How a document reads its grammar

A session's loop over lines is an inquiry, so with a grammar it has both an answer and a list of the
calls made. Its calls for words are one for each line with text, in order, and the state goes from
call to call (`calls_askLines`, `threads_priors`): blank lines neither call nor touch it. Without an
analyzer nothing but the lines with text decides what their tokens are, and nothing behind a line
decides its tokens (`highlight_threads`).
-/

namespace Highlight

/-! ## The calls for words -/

namespace Inquiry

variable {σ α β : Type}

/-- The lines whose words the grammar is asked for, each with the state passed along. -/
def calls (g : Grammar σ) : Inquiry σ α → List (String × Option σ)
  | .done _ => []
  | .words line prior next => (line, prior) :: (next (g.words line prior)).calls g
  | .tokens line prior next => (next (g.tokens line prior)).calls g

@[simp]
theorem calls_pure (g : Grammar σ) (a : α) : (pure a : Inquiry σ α).calls g = [] := rfl

@[simp]
theorem calls_bind (g : Grammar σ) (i : Inquiry σ α) (f : α → Inquiry σ β) :
    (i >>= f).calls g = i.calls g ++ (f (i.answer g)).calls g := by
  induction i with
  | done a => rfl
  | words line prior next ih => exact congrArg (List.cons _) (ih _)
  | tokens line prior next ih => exact ih _

end Inquiry

namespace Grammar

variable {σ : Type}

theorem priors_blank (g : Grammar σ) (prior : Option σ) {line : String} (rest : List String)
    (blank : line = "") :
    g.priors prior (line :: rest) = g.priors prior rest := by
  rw [priors, if_pos (by simpa using blank)]

theorem priors_text (g : Grammar σ) (prior : Option σ) {line : String} (rest : List String)
    (text : line ≠ "") :
    g.priors prior (line :: rest) = prior :: g.priors (some (g.words line prior).2) rest := by
  rw [priors, if_neg (by simpa using text)]

theorem length_priors (g : Grammar σ) (prior : Option σ) (ls : List String) :
    (g.priors prior ls).length = (ls.filter (· ≠ "")).length := by
  induction ls generalizing prior with
  | nil => rfl
  | cons line rest ih =>
    by_cases blank : line = ""
    · rw [priors_blank g prior rest blank, List.filter_cons_of_neg (by simpa using blank), ih]
    · rw [priors_text g prior rest blank, List.filter_cons_of_pos (by simpa using blank),
        List.length_cons, List.length_cons, ih]

/-- The first call passes `prior`, every other one the state that the call before it returned. -/
structure Threads (g : Grammar σ) (prior : Option σ) (calls : List (String × Option σ)) : Prop where
  first : ∀ call ∈ calls.head?, call.2 = prior
  later : calls.IsChain fun call next => next.2 = some (g.words call.1 call.2).2

theorem Threads.cons {g : Grammar σ} {line : String} {prior : Option σ}
    {calls : List (String × Option σ)} (threads : g.Threads (some (g.words line prior).2) calls) :
    g.Threads prior ((line, prior) :: calls) where
  first := by simp
  later := List.isChain_cons.mpr ⟨threads.first, threads.later⟩

theorem threads_priors (g : Grammar σ) (prior : Option σ) (ls : List String) :
    g.Threads prior ((ls.filter (· ≠ "")).zip (g.priors prior ls)) := by
  induction ls generalizing prior with
  | nil => exact ⟨(fun _ mem => nomatch mem), .nil⟩
  | cons line rest ih =>
    by_cases blank : line = ""
    · rw [priors_blank g prior rest blank, List.filter_cons_of_neg (by simpa using blank)]
      exact ih prior
    · rw [priors_text g prior rest blank, List.filter_cons_of_pos (by simpa using blank)]
      exact (ih _).cons

end Grammar

namespace Session

variable {σ : Type}

theorem calls_askLine (g : Grammar σ) (s : Session) (line : String) (prior : Option σ) :
    (s.askLine line prior).calls g = [(line, prior)] := by
  unfold askLine
  cases s.explain <;> rfl

/-- Whatever the spans are, the grammar is asked for the words of each line with text once, in
order. -/
theorem calls_askLines (g : Grammar σ) (s : Session) (prior : Option σ)
    (input : List (String × List Span)) :
    (askLines s prior input).calls g =
      ((input.map Prod.fst).filter (· ≠ "")).zip (g.priors prior (input.map Prod.fst)) := by
  induction input generalizing s prior with
  | nil => rfl
  | cons entry input ih =>
    obtain ⟨line, spans⟩ := entry
    rw [askLines, List.map_cons]
    by_cases blank : line = ""
    · rw [if_pos (by simpa using blank), g.priors_blank prior _ blank,
        List.filter_cons_of_neg (by simpa using blank)]
      simp only [Inquiry.calls_bind, Inquiry.calls_pure, List.append_nil, ih]
    · rw [if_neg (by simpa using blank), g.priors_text prior _ blank,
        List.filter_cons_of_pos (by simpa using blank)]
      have state : ((s.askLine line prior).answer g).2 = (g.words line prior).2 :=
        congrArg Prod.snd (s.grammarTokens_eq g line prior)
      simp only [Inquiry.calls_bind, Inquiry.calls_pure, List.append_nil, calls_askLine, state, ih]
      rfl

/-! ## Documents without an analyzer -/

theorem splice_nil (line : String) (s : Splicer) (tokens : List Token) :
    splice line s tokens [] = (tokens, s) := by
  have all (start : Nat) : spliceFrom line start s tokens [] = (tokens, s) := by
    induction tokens generalizing start with
    | nil => rfl
    | cons t ts ih =>
      have whole : carve line t start start s [] = ([t], [], s) := by
        rw [carve, lastPiece, if_pos rfl]
      rw [spliceFrom_cons, whole, ih]
      rfl
  exact all 0

/-- The tokens of lines that nothing is spliced into. -/
def plainLines (g : Grammar σ) (painter : Painter) (explain : Bool) :
    Option σ → List String → List (List Token)
  | _, [] => []
  | prior, line :: rest =>
    if line = "" then [] :: plainLines g painter explain prior rest
    else
      let (tokens, state) := (fresh painter explain).grammarTokens g line prior
      tokens :: plainLines g painter explain (some state) rest

section Plain

variable (g : Grammar σ) (painter : Painter) (explain : Bool)

/-- Without spans the lines are plain, and the session stays as it is, whatever it remembers. -/
theorem lines_without_spans (splicer : Splicer) (prior : Option σ) (ls : List String) :
    lines g ⟨painter, explain, splicer⟩ prior (ls.map (·, [])) =
      (plainLines g painter explain prior ls, ⟨painter, explain, splicer⟩) := by
  induction ls generalizing prior with
  | nil => rfl
  | cons line rest ih =>
    rw [List.map_cons, plainLines]
    by_cases blank : line = ""
    · rw [lines_blank g _ prior [] _ blank, if_pos blank, ih]
    · rw [lines_text g _ prior [] _ blank, if_neg blank, splice_nil]
      dsimp only
      rw [ih]
      rfl

theorem plainLines_blank (prior : Option σ) (ls : List String) :
    List.Forall₂ (fun line tokens => line = "" → tokens = []) ls
      (plainLines g painter explain prior ls) := by
  induction ls generalizing prior with
  | nil => exact .nil
  | cons line rest ih =>
    rw [plainLines]
    split
    next => exact .cons (fun _ => rfl) (ih prior)
    next text => exact .cons (fun blank => absurd blank text) (ih _)

/-- More lines behind change nothing before them. -/
theorem plainLines_isPrefix (prior : Option σ) (ls more : List String) :
    plainLines g painter explain prior ls <+: plainLines g painter explain prior (ls ++ more) := by
  induction ls generalizing prior with
  | nil => exact List.nil_prefix
  | cons line rest ih =>
    rw [List.cons_append, plainLines, plainLines]
    split
    next => exact (List.prefix_cons_inj _).mpr (ih prior)
    next => exact (List.prefix_cons_inj _).mpr (ih _)

/-- Of one answer for each line, those for the lines with text. -/
def atText {α : Type} (ls : List String) (answers : List α) : List α :=
  ((ls.zip answers).filter (·.1 ≠ "")).map Prod.snd

/-- Blank lines change nothing at the lines with text. -/
theorem atText_plainLines (prior : Option σ) (ls : List String) :
    atText ls (plainLines g painter explain prior ls) =
      plainLines g painter explain prior (ls.filter (· ≠ "")) := by
  induction ls generalizing prior with
  | nil => rfl
  | cons line rest ih =>
    by_cases blank : line = ""
    · rw [plainLines, if_pos blank, List.filter_cons_of_neg (by simpa using blank), ← ih prior,
        atText, List.zip_cons_cons, List.filter_cons_of_neg (by simpa using blank), atText]
    · rw [plainLines, if_neg blank, List.filter_cons_of_pos (by simpa using blank), plainLines,
        if_neg blank, atText, List.zip_cons_cons, List.filter_cons_of_pos (by simpa using blank),
        List.map_cons, ← atText, ih]

theorem zip_replicate_nil (ls : List String) :
    ls.zip (List.replicate ls.length ([] : List Span)) = ls.map (·, []) := by
  induction ls with
  | nil => rfl
  | cons line rest ih =>
    rw [List.length_cons, List.replicate_succ, List.zip_cons_cons, ih, List.map_cons]

theorem ask_without_analyzer (s : Session) (text language : String) :
    s.ask text language none = .ok (askLines (σ := σ) s none ((splitLines text).map (·, []))) := by
  rw [← zip_replicate_nil]
  rfl

/-- The calls for words that a document makes without an analyzer. -/
theorem calls_without_analyzer (s : Session) (text : String) :
    let calls := (askLines s none ((splitLines text).map (·, []))).calls g
    calls.map Prod.fst = textLines text ∧ calls.map Prod.snd = g.priors none (splitLines text) ∧
      g.Threads none calls := by
  have paired : ((splitLines text).map fun line => (line, ([] : List Span))).map Prod.fst =
      splitLines text := by
    rw [List.map_map]
    exact List.map_id _
  have long := g.length_priors none (splitLines text)
  rw [calls_askLines, paired]
  exact ⟨List.map_fst_zip (Nat.le_of_eq long.symm), List.map_snd_zip (Nat.le_of_eq long),
    g.threads_priors none (splitLines text)⟩

end Plain

/-- Whatever the grammar, the theme and the palette are: without an analyzer a document is answered
in every session and under every name of its language alike, and the session stays as it is. The
grammar is asked for the words of each line with text once, in order, first without a state and then
with the state from the call before. So the tokens of the lines with text depend on those lines
only, which breaks between them do not change, and the answer to the first lines of a document is
the first part of its answer. -/
theorem highlight_threads (painter : Painter) (explain : Bool) (g : Grammar σ) :
    ∃ answer : String → List (List Token),
      (∀ (text language : String) (splicer : Splicer),
        let s : Session := ⟨painter, explain, splicer⟩
        s.highlight g text language none = .ok (answer text, s) ∧
          ∃ inquiry : Inquiry σ (List (List Token) × Session),
            (∀ g' : Grammar σ, s.highlight g' text language none = .ok (inquiry.answer g')) ∧
              s.ask text language none = .ok inquiry ∧
              (inquiry.calls g).map Prod.fst = textLines text ∧
              (inquiry.calls g).map Prod.snd = g.priors none (splitLines text) ∧
              g.Threads none (inquiry.calls g)) ∧
        (∀ text, List.Forall₂ (fun line tokens => line = "" → tokens = [])
          (splitLines text) (answer text)) ∧
        (∀ text text', textLines text = textLines text' →
          atText (splitLines text) (answer text) = atText (splitLines text') (answer text')) ∧
        (∀ front gap back : String, gap ≠ "" → (∀ c ∈ gap.toList, c = '\n' ∨ c = '\r') →
          textLines (front ++ gap ++ back) = textLines front ++ textLines back) ∧
        (∀ text text', splitLines text <+: splitLines text' → answer text <+: answer text') := by
  refine ⟨fun text => plainLines g painter explain none (splitLines text), ?_, ?_, ?_, ?_, ?_⟩
  · intro text language splicer s
    have asked := ask_without_analyzer (σ := σ) s text language
    refine ⟨?_, askLines s none ((splitLines text).map (·, [])), ?_, asked,
      calls_without_analyzer g s text⟩
    · rw [highlight, asked, ← lines_without_spans g painter explain splicer none]
      rfl
    · intro g'
      rw [highlight, asked]
      rfl
  · exact fun text => plainLines_blank g painter explain none (splitLines text)
  · intro text text' same
    have same' : (splitLines text).filter (· ≠ "") = (splitLines text').filter (· ≠ "") := same
    rw [atText_plainLines, atText_plainLines, same']
  · exact fun front gap back wide breaks => textLines_append front back wide breaks
  · rintro text text' ⟨more, longer⟩
    dsimp only
    rw [← longer]
    exact plainLines_isPrefix g painter explain none (splitLines text) more

/-- Breaks of every kind, with blank lines before, between and behind, in sessions with different
pasts. The grammar's words depend on the state before the line, and its tokens would return another
state. -/
theorem highlight_threads_past_blank_lines :
    let painter : Painter :=
      .ofTheme ⟨"plain", none, none, [⟨none, ⟨["comment"]⟩, ⟨some "#0f0", none, {}⟩⟩]⟩
    let g : Grammar Nat :=
      ⟨fun _ _ => ([], 0),
        fun _ n => ([0, if n.getD 0 % 2 = 0 then 0x4000 else 0xC000], n.getD 0 + 1)⟩
    let s := fresh painter true
    let s' : Session := { s with splicer := ⟨⟨[], [("comment", none)]⟩, ⟨3, 4⟩⟩ }
    textLines "a\r\n\r\nb" = textLines "\na\rb\n\n" ∧
    splitLines "a\r\n\r\nb" <+: splitLines "a\n\nb\rc" ∧
      textLines ("a" ++ "\r\n\n" ++ "b") = textLines "a" ++ textLines "b" ∧
      ∃ first second longer, s.highlight g "a\r\n\r\nb" "t" none = .ok (first, s) ∧
        s'.highlight g "\na\rb\n\n" "u" none = .ok (second, s') ∧
        s.highlight g "a\n\nb\rc" "t" none = .ok (longer, s) ∧
        atText (splitLines "a\r\n\r\nb") first = atText (splitLines "\na\rb\n\n") second ∧
        first <+: longer := by
  intro painter g s s'
  have same : textLines "a\r\n\r\nb" = textLines "\na\rb\n\n" := by decide
  have front : splitLines "a\r\n\r\nb" <+: splitLines "a\n\nb\rc" := by decide
  obtain ⟨answer, given, _, alike, apart, grows⟩ := highlight_threads painter true g
  refine ⟨same, front, apart "a" "\r\n\n" "b" (by decide) (by simp), answer _, answer _,
    answer _, ?_, ?_, ?_,
    alike _ _ same, grows _ _ front⟩
  · exact (given _ "t" s.splicer).1
  · exact (given _ "u" s'.splicer).1
  · exact (given _ "t" s.splicer).1

end Session

end Highlight
