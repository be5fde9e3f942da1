import Highlight.Proofs.Language.Packing
import Highlight.Proofs.Session.Threading
import Highlight.Proofs.Token.Spelling

/-!
# Explanations partition their line

The tokens of a line are merged runs of the grammar's tokens, and while the line is cut each token
takes along the grammar's tokens that start before its end. `RunsOn` says that the grammar's tokens
lie one behind the other. Cut where one of them starts they fall apart into two such runs
(`RunsOn.split`), so a token that ends there takes exactly the run that spells it, and leaves behind
one that starts with the next token. Since every pair of a packed answer starts where a token of the
grammar does, this goes on to the end of the line (`Painter.lineTokens_explains`).

Tokens without text may stand anywhere in a run: no explanation shows them, and they spell nothing.
-/

namespace Highlight

/-! ## Tokens that run on -/

/-- The tokens lie one behind the other between two bytes of the line. Some of them may be empty. -/
inductive RunsOn (line : String) : Nat → Nat → List ScopedToken → Prop where
  | nil {stop : Nat} (boundary : Boundary line.toList stop) : RunsOn line stop stop []
  | cons {start stop : Nat} {t : ScopedToken} {ts : List ScopedToken} {content : String}
      (here : t.start = start) (cut : slice? line start t.stop = some content)
      (rest : RunsOn line t.stop stop ts) : RunsOn line start stop (t :: ts)

namespace RunsOn

variable {line : String} {start stop : Nat} {ts : List ScopedToken}

theorem boundary (runs : RunsOn line start stop ts) : Boundary line.toList start := by
  cases runs with
  | nil boundary => exact boundary
  | cons _ cut _ => exact (slice?_boundaries cut).2.1

theorem le (runs : RunsOn line start stop ts) : start ≤ stop := by
  induction runs with
  | nil => exact Nat.le_refl _
  | cons _ cut _ ih => exact Nat.le_trans (slice?_boundaries cut).1 ih

theorem mem_bounds (runs : RunsOn line start stop ts) {t : ScopedToken} (mem : t ∈ ts) :
    start ≤ t.start ∧ t.start ≤ t.stop ∧ t.stop ≤ stop := by
  induction runs with
  | nil => cases mem
  | cons here cut rest ih =>
    have ordered := (slice?_boundaries cut).1
    rcases List.mem_cons.mp mem with rfl | later
    · exact ⟨Nat.le_of_eq here.symm, here ▸ ordered, rest.le⟩
    · obtain ⟨low, inner⟩ := ih later
      exact ⟨Nat.le_trans ordered low, inner⟩

theorem exists_content (runs : RunsOn line start stop ts) {t : ScopedToken} (mem : t ∈ ts) :
    ∃ content, slice? line t.start t.stop = some content := by
  induction runs with
  | nil => cases mem
  | cons here cut _ ih =>
    rcases List.mem_cons.mp mem with rfl | later
    · exact ⟨_, here ▸ cut⟩
    · exact ih later

/-- At its end, or where a token starts, a run falls apart into a run of the tokens that start
before this place and a run of the others. -/
theorem split (runs : RunsOn line start stop ts) {place : Nat}
    (found : place = stop ∨ ∃ t ∈ ts, t.start = place) :
    RunsOn line start place (ts.takeWhile (·.start < place)) ∧
      RunsOn line place stop (ts.dropWhile (·.start < place)) := by
  induction runs with
  | nil boundary =>
    obtain rfl : place = _ := by simpa using found
    exact ⟨.nil boundary, .nil boundary⟩
  | @cons start stop t ts _ here cut rest ih =>
    by_cases before : t.start < place
    · -- the first token is not the one that starts at the place, so another one is
      have found : place = stop ∨ ∃ u ∈ ts, u.start = place := by
        rcases found with last | ⟨u, mem, first⟩
        · exact .inl last
        · rcases List.mem_cons.mp mem with rfl | later
          · omega
          · exact .inr ⟨u, later, first⟩
      rw [List.takeWhile_cons_of_pos (by simpa using before),
        List.dropWhile_cons_of_pos (by simpa using before)]
      exact ⟨.cons here cut (ih found).1, (ih found).2⟩
    · have runs : RunsOn line start stop (t :: ts) := .cons here cut rest
      have reached : start ≤ place := by
        rcases found with rfl | ⟨u, mem, rfl⟩
        · exact runs.le
        · exact (runs.mem_bounds mem).1
      obtain rfl : place = start := by omega
      rw [List.takeWhile_cons_of_neg (by simpa using before),
        List.dropWhile_cons_of_neg (by simpa using before)]
      exact ⟨.nil runs.boundary, runs⟩

theorem dropWhile_start (runs : RunsOn line start stop ts) :
    ts.dropWhile (·.start < start) = ts := by
  cases runs with
  | nil => rfl
  | cons here _ _ => rw [List.dropWhile_cons_of_neg (by simp [here])]

/-- A run that gets nowhere holds no text. -/
theorem filter_eq_nil (runs : RunsOn line stop stop ts) :
    (ts.filter fun t => t.start < t.stop) = [] := by
  apply List.filter_eq_nil_iff.mpr
  intro t mem
  have bounds := runs.mem_bounds mem
  simp only [decide_eq_true_eq]
  omega

end RunsOn

/-! ## The notes of a line -/

/-- The note shows the text of a token of the grammar, and its scopes from the outermost inwards
with the labels of the rules that speak of each. -/
structure TokenNote.Tells (rules : List Rule) (line : String) (t : ScopedToken)
    (note : TokenNote) : Prop where
  content : slice? line t.start t.stop = some note.content
  scopes : note.scopes =
    (Theme.explain rules t.scopes).map fun e => ⟨e.scope, e.hits.map (·.rule.label)⟩

/-- The explanations of the tokens, one behind the other, tell the tokens of the grammar that hold
text, each once and in order; and every token is explained by notes that spell it. -/
structure Explains (rules : List Rule) (line : String) (ts : List ScopedToken)
    (tokens : List Token) : Prop where
  each : List.Forall₂ (TokenNote.Tells rules line) (ts.filter fun t => t.start < t.stop)
    (tokens.flatMap fun t => t.explanation.getD [])
  own : ∀ t ∈ tokens, ∃ notes,
    t.explanation = some notes ∧ String.join (notes.map (·.content)) = t.content

namespace RunsOn

variable {line : String} {start stop : Nat} {ts : List ScopedToken} (p : Painter)

theorem tells_notes (runs : RunsOn line start stop ts) :
    List.Forall₂ (TokenNote.Tells p.theme.rules line) (ts.filter fun t => t.start < t.stop)
      (p.notes line ts) := by
  apply List.forall₂_map_right_iff.mpr
  apply List.forall₂_same.mpr
  intro t mem
  obtain ⟨content, cut⟩ := runs.exists_content (List.mem_of_mem_filter mem)
  refine ⟨?_, rfl⟩
  rw [cut, Painter.note, cut]
  rfl

/-- The notes of a run spell the line from its start to its end. -/
theorem slice?_notes (runs : RunsOn line start stop ts) :
    slice? line start stop = some (String.join ((p.notes line ts).map (·.content))) := by
  induction runs with
  | nil boundary => exact slice?_self boundary
  | @cons start stop t ts content here cut rest ih =>
    have whole := slice?_append cut ih
    by_cases wide : t.start < t.stop
    · have noted : p.notes line (t :: ts) = p.note line t :: p.notes line ts := by
        simp [Painter.notes, wide]
      have told : (p.note line t).content = content := by
        rw [Painter.note, here, cut]
        rfl
      rw [whole, noted, List.map_cons, told, String.join_cons]
    · have noted : p.notes line (t :: ts) = p.notes line ts := by
        simp [Painter.notes, wide]
      have blank : content = "" := by
        have size := slice?_size cut
        exact byteSize_eq_zero_iff.mp (by omega)
      rw [whole, noted, blank, String.empty_append]

end RunsOn

namespace Explains

variable {line : String} {start stop : Nat}

/-- Where no text is left, no token is. -/
theorem nil {ts : List ScopedToken} (rules : List Rule) (runs : RunsOn line stop stop ts) :
    Explains rules line ts [] where
  each := by
    rw [runs.filter_eq_nil]
    exact .nil
  own := by simp

/-- A token that takes a run and spells what it spells. -/
theorem cons (p : Painter) {front back : List ScopedToken} {tokens : List Token} {content : String}
    (word : UInt32) (runs : RunsOn line start stop front)
    (cut : slice? line start stop = some content) (rest : Explains p.theme.rules line back tokens) :
    Explains p.theme.rules line (front ++ back)
      (p.token content word (some (p.notes line front)) :: tokens) where
  each := by
    rw [List.filter_append, List.flatMap_cons]
    exact List.rel_append (runs.tells_notes p) rest.each
  own := by
    intro t mem
    rcases List.mem_cons.mp mem with rfl | later
    · rw [runs.slice?_notes p] at cut
      exact ⟨_, rfl, Option.some.inj cut⟩
    · exact rest.own t later

end Explains

/-! ## Cutting a line -/

namespace Painter

variable (p : Painter) {line : String}

/-- One pair takes the run up to the start of the next pair and leaves the rest of the run to the
pairs behind it. -/
theorem explains_lineTokens_cons {ts : List ScopedToken} {start stop : Nat} (word : UInt32)
    {pairs : List (Nat × UInt32)} (next : (pairs.head?.map (·.1)).getD (byteSize line) = stop)
    (runs : RunsOn line start (byteSize line) ts)
    (found : stop = byteSize line ∨ ∃ t ∈ ts, t.start = stop)
    (rest : Explains p.theme.rules line (ts.dropWhile (·.start < stop))
      (p.lineTokens line (some (ts.dropWhile (·.start < stop))) pairs)) :
    Explains p.theme.rules line ts (p.lineTokens line (some ts) ((start, word) :: pairs)) := by
  have front := (runs.split found).1
  rw [lineTokens, next]
  dsimp only
  by_cases wide : start < stop
  · have taken := Explains.cons p word front (front.slice?_notes p) rest
    rw [List.takeWhile_append_dropWhile] at taken
    rw [if_pos wide, front.slice?_notes p]
    exact taken
  · -- the pair is passed over, and takes nothing
    obtain rfl : start = stop := Nat.le_antisymm front.le (Nat.not_lt.mp wide)
    rw [runs.dropWhile_start] at rest
    rw [if_neg wide]
    exact rest

/-- Pairs in order that start where tokens of the grammar start cut the line into explained
tokens. -/
theorem lineTokens_explains {ts : List ScopedToken} {start : Nat} {word : UInt32}
    {pairs : List (Nat × UInt32)} (runs : RunsOn line start (byteSize line) ts)
    (ordered : (((start, word) :: pairs).map Prod.fst).Pairwise (· ≤ ·))
    (starts : ∀ pair ∈ pairs, ∃ t ∈ ts, t.start = pair.1) :
    Explains p.theme.rules line ts (p.lineTokens line (some ts) ((start, word) :: pairs)) := by
  induction pairs generalizing start word ts with
  | nil =>
    exact p.explains_lineTokens_cons word rfl runs (.inl rfl) (.nil _ (runs.split (.inl rfl)).2)
  | cons next pairs ih =>
    obtain ⟨place, word'⟩ := next
    have found := starts _ List.mem_cons_self
    obtain ⟨-, ordered⟩ := List.pairwise_cons.mp ordered
    refine p.explains_lineTokens_cons word rfl runs (.inr found)
      (ih (runs.split (.inr found)).2 ordered ?_)
    intro pair mem
    obtain ⟨t, mem', first⟩ := starts pair (List.mem_cons_of_mem _ mem)
    refine ⟨t, ?_, first⟩
    -- the token starts at the pair, and so not before the place where the run was cut
    have behind : place ≤ pair.1 := (List.pairwise_cons.mp ordered).1 _ (List.mem_map_of_mem mem)
    rw [← List.takeWhile_append_dropWhile (p := (·.start < place)) (l := ts)] at mem'
    rcases List.mem_append.mp mem' with before | left
    · have ahead := List.all_eq_true.mp List.all_takeWhile t before
      simp only [decide_eq_true_eq] at ahead
      omega
    · exact left

end Painter

/-! ## Bound languages -/

namespace BoundLanguage

variable (b : BoundLanguage) {line : String}

theorem runsOn_of_tiling {start stop : Nat} {segments : List Segment}
    (tiling : Tiling line.toList start stop segments) :
    RunsOn line start stop (segments.map b.scopedToken) := by
  induction segments generalizing start with
  | nil =>
    obtain ⟨rfl, boundary⟩ := tiling
    exact .nil boundary
  | cons s ss ih =>
    obtain ⟨here, boundary, filled, rest⟩ := tiling
    have runs := ih rest
    obtain ⟨content, cut⟩ := exists_slice? (Nat.le_of_lt filled) boundary runs.boundary
    exact .cons here cut runs

/-- The segments of a line, an empty one that comes first included, become tokens that run on. -/
theorem exists_segments (filled : line ≠ "") (prior : Option LineState) :
    ∃ segments, (b.grammar.tokens line prior).1 = segments.map b.scopedToken ∧
      wordPairs (b.grammar.words line prior).1 = b.pairsFrom none segments ∧
      RunsOn line 0 (byteSize line) (segments.map b.scopedToken) := by
  rcases b.language.scan_tiling filled (prior.getD .normal) with tiling |
      ⟨r, rest, -, scanned, tiling⟩
  · have some : (b.language.scan line (prior.getD .normal)).1 ≠ [] := by
      intro none
      rw [none] at tiling
      exact filled (byteSize_eq_zero_iff.mp tiling.1.symm)
    exact ⟨_, grammar_tokens rfl some, congrArg wordPairs (grammar_words rfl some),
      b.runsOn_of_tiling tiling⟩
  · have some : ⟨0, 0, .construct r⟩ :: rest ≠ [] := List.cons_ne_nil _ _
    exact ⟨_, grammar_tokens scanned some, congrArg wordPairs (grammar_words scanned some),
      .cons rfl (slice?_self (boundary_zero _)) (b.runsOn_of_tiling tiling)⟩

/-- On every line that its offsets can address, a bound language has explained tokens. -/
theorem explains_grammarTokens (painter : Painter) (filled : line ≠ "")
    (short : byteSize line < 2 ^ 32) (prior : Option LineState) :
    Explains painter.theme.rules line (b.grammar.tokens line prior).1
      ((Session.fresh painter true).grammarTokens b.grammar line prior).1 := by
  obtain ⟨segments, tokens, pairs, runs⟩ := b.exists_segments filled prior
  obtain ⟨word, later, shape, ordered, -⟩ := b.exists_wordPairs filled short prior
  have starts : ∀ pair ∈ later, ∃ t ∈ segments.map b.scopedToken, t.start = pair.1 := by
    intro pair mem
    have mem : pair ∈ b.pairsFrom none segments := by
      rw [← pairs, shape]
      exact List.mem_cons_of_mem _ mem
    have narrow : ∀ s ∈ segments, s.start < 2 ^ 32 := by
      intro s mem
      obtain ⟨-, inner, last⟩ := runs.mem_bounds (List.mem_map_of_mem mem)
      exact Nat.lt_of_le_of_lt (Nat.le_trans inner last) short
    obtain ⟨s, mem, first⟩ := b.exists_segment_of_mem_pairsFrom_of_lt narrow none mem
    exact ⟨b.scopedToken s, List.mem_map_of_mem mem, first⟩
  show Explains _ _ _ (painter.lineTokens line (some (b.grammar.tokens line prior).1)
    (wordPairs (b.grammar.words line prior).1))
  rw [tokens, shape]
  exact painter.lineTokens_explains runs ordered starts

end BoundLanguage

/-! ## Documents -/

namespace Grammar

variable {σ : Type}

/-- The state behind lines that are read one after the other; blank lines leave it as it is. -/
def stateBehind (g : Grammar σ) (prior : Option σ) (ls : List String) : Option σ :=
  ls.foldl (fun prior line => if line = "" then prior else some (g.words line prior).2) prior

theorem stateBehind_blank (g : Grammar σ) (prior : Option σ) {line : String} (ls : List String)
    (blank : line = "") :
    g.stateBehind prior (line :: ls) = g.stateBehind prior ls := by
  rw [stateBehind, List.foldl_cons, if_pos blank, stateBehind]

theorem stateBehind_text (g : Grammar σ) (prior : Option σ) {line : String} (ls : List String)
    (text : line ≠ "") :
    g.stateBehind prior (line :: ls) = g.stateBehind (some (g.words line prior).2) ls := by
  rw [stateBehind, List.foldl_cons, if_neg text, stateBehind]

end Grammar

namespace Session

variable {σ : Type} (g : Grammar σ) (painter : Painter) (explain : Bool)

/-- The tokens of a line are those that the grammar has for it in the state behind the lines
before. -/
theorem getElem?_plainLines (prior : Option σ) (ls : List String) (i : Nat) :
    (plainLines g painter explain prior ls)[i]? = ls[i]?.map fun line =>
      if line = "" then []
      else ((fresh painter explain).grammarTokens g line (g.stateBehind prior (ls.take i))).1 := by
  induction ls generalizing prior i with
  | nil => rfl
  | cons line rest ih =>
    rw [plainLines]
    by_cases blank : line = ""
    · rw [if_pos blank]
      cases i with
      | zero => exact congrArg some (if_pos blank).symm
      | succ i =>
        rw [List.getElem?_cons_succ, ih, List.take_succ_cons, g.stateBehind_blank prior _ blank]
        rfl
    · rw [if_neg blank]
      cases i with
      | zero => exact congrArg some (if_neg blank).symm
      | succ i =>
        rw [List.getElem?_cons_succ, ih, List.take_succ_cons, g.stateBehind_text prior _ blank,
          (fresh painter explain).grammarTokens_eq g line]
        rfl

theorem highlight_without_analyzer (splicer : Splicer) (text language : String) :
    (⟨painter, explain, splicer⟩ : Session).highlight g text language none =
      .ok (plainLines g painter explain none (splitLines text), ⟨painter, explain, splicer⟩) := by
  show Except.ok
      (lines g _ none ((splitLines text).zip (List.replicate (splitLines text).length []))) = _
  rw [zip_replicate_nil, lines_without_spans]

/-- Whatever the language and the theme are: a document whose lines have offsets that fit into words
is answered in every session that explains, and without an analyzer the session stays as it is. On
every line, blank ones too, the explanations partition what the grammar has for the line in the
state behind the lines before. -/
theorem highlight_explanations_partition (b : BoundLanguage) (painter : Painter) (splicer : Splicer)
    (text language : String) (short : ∀ line ∈ splitLines text, byteSize line < 2 ^ 32) :
    let s : Session := ⟨painter, true, splicer⟩
    ∃ lines, s.highlight b.grammar text language none = .ok (lines, s) ∧
      lines.length = (splitLines text).length ∧
      ∀ (i : Nat) (line : String), (splitLines text)[i]? = some line →
        ∃ tokens, lines[i]? = some tokens ∧
          Explains painter.theme.rules line
            (b.grammar.tokens line (b.grammar.stateBehind none ((splitLines text).take i))).1
              tokens := by
  intro s
  refine ⟨_, highlight_without_analyzer b.grammar painter true splicer text language, ?_, ?_⟩
  · exact (plainLines_blank b.grammar painter true none (splitLines text)).length_eq.symm
  · intro i line at_i
    have answer := getElem?_plainLines b.grammar painter true none (splitLines text) i
    rw [at_i, Option.map_some] at answer
    refine ⟨_, answer, ?_⟩
    by_cases blank : line = ""
    · -- the grammar has one token without text for a blank line
      rw [if_pos blank, blank]
      exact .nil _ (.cons rfl (slice?_self (boundary_zero _)) (.nil (boundary_zero _)))
    · rw [if_neg blank]
      exact b.explains_grammarTokens painter blank (short line (List.mem_of_getElem? at_i)) _

/-- An accented letter and a number that look alike, so that one token has both notes; and behind a
blank line a line that an open comment leaves at once, so that the grammar's first token for it is
empty. -/
theorem highlight_explanations_partition_at_once :
    let comment : Construct :=
      ⟨"comment", Pattern.regex (.set (.single '#')), Pattern.regex .empty, .blockComment,
        some '\\', 7⟩
    let number : PatternRule :=
      ⟨"number", Pattern.regex (.many (.set .digit) ⟨1, none, true⟩), .number, 5⟩
    let theme : Theme := ⟨"plain", none, none, [⟨none, ⟨["comment"]⟩, ⟨some "#0f0", none, {}⟩⟩]⟩
    let b : BoundLanguage :=
      ⟨{ Language.new "t" "T" "t" with patterns := [number], constructs := [comment] }, theme,
        .ofTheme theme⟩
    let s := ofTheme theme true
    splitLines "é1#\n\n2a" = ["é1#", "", "2a"] ∧
      b.grammar.tokens "2a" (b.grammar.stateBehind none ["é1#", ""]) =
        ([⟨0, 0, ["source.t", "comment.block.t"]⟩, ⟨0, 1, ["source.t", "constant.numeric.t"]⟩,
          ⟨1, 2, ["source.t"]⟩],
          ⟨0⟩) ∧
      ∃ lines, s.highlight b.grammar "é1#\n\n2a" "t" none = .ok (lines, s) ∧
        lines.length = (splitLines "é1#\n\n2a").length ∧
        ∀ (i : Nat) (line : String), (splitLines "é1#\n\n2a")[i]? = some line →
          ∃ tokens, lines[i]? = some tokens ∧
            Explains theme.rules line
              (b.grammar.tokens line
                (b.grammar.stateBehind none ((splitLines "é1#\n\n2a").take i))).1 tokens := by
  intro comment number theme b s
  have split : splitLines "é1#\n\n2a" = ["é1#", "", "2a"] := by decide
  refine ⟨split, by decide +kernel, ?_⟩
  apply highlight_explanations_partition b (.ofTheme theme) s.splicer
  rw [split]
  decide

end Session

end Highlight
