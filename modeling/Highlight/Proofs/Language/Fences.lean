import Highlight.Proofs.Language.Registration
import Highlight.Proofs.Language.Resuming
import Highlight.Proofs.Pattern.Literal
import Highlight.Proofs.Session.Partition

/-!
# Fences open and close code blocks

Markdown has one construct that may stay open over lines: a code block, between two lines that start
with three back-quotes. Such a line is a fence. Both ends of a block are read by the same pattern,
which matches at the start of a line alone (`filledAt?_fence`, `closeAt?_fence`). So a fence that
opens a block is not closed on its own line, and one that closes a block opens no other, whatever
follows it.

`Fenced` lists what this takes of a language. `Fenced.scan` is the step from one line to the next: a
fence turns the state around, every other line leaves it. Along a document the state is therefore
the parity of the fences so far (`Fenced.stateAfter_eq`).
-/

namespace Highlight.Language

/-! ## Lines on which nothing opens -/

/-- Where no construct opens from a place on, the reading leaves none open and has only gaps and
matches of pattern rules. -/
theorem Reads.without_constructs {l : Language} {text : List Char} {c : Cursor}
    {segments : List Segment} {state : LineState} (reads : l.Reads text c segments state)
    (shut : ∀ d, c.Reaches d → ∀ r ∈ l.constructs, r.opener.filledAt? d = none) :
    state = .normal ∧
      ∀ s ∈ segments, s.origin = .gap ∨ ∃ r ∈ l.patterns, s.origin = .pattern r := by
  -- no construct takes over at the place where the reading begins
  have absurd_opening {c stop : Cursor} {r : Construct}
      (found : l.ruleAt? c = some (.construct r, stop))
      (shut : ∀ d, c.Reaches d → ∀ r ∈ l.constructs, r.opener.filledAt? d = none) : False := by
    obtain ⟨mem, opens⟩ := opener_of_ruleAt? found
    rw [shut c (.refl c) r mem] at opens
    cases opens
  induction reads with
  | ended => exact ⟨rfl, by simp⟩
  | gap ahead _ _ _ _ ih =>
    obtain ⟨normal, plain⟩ := ih fun d reached => shut d (ahead.trans reached)
    exact ⟨normal, List.forall_mem_cons.mpr ⟨.inl rfl, plain⟩⟩
  | @pattern c stop r _ _ found _ ih =>
    obtain ⟨normal, plain⟩ := ih fun d reached => shut d ((ruleAt?_eq_some found).1.trans reached)
    refine ⟨normal, List.forall_mem_cons.mpr ⟨.inr ⟨r, ?_, rfl⟩, plain⟩⟩
    obtain ⟨rule, mem, same, -⟩ := exists_rule_of_ruleAt? found
    cases rule with
    | construct => cases same
    | pattern q =>
      cases same
      simpa [rules] using mem
  | closed found => exact (absurd_opening found shut).elim
  | opened found => exact (absurd_opening found shut).elim

/-- A construct that takes over at once and does not close takes up all that is left. -/
theorem Reads.of_opening {l : Language} {text : List Char} {c stop : Cursor} {r : Construct}
    {segments : List Segment} {state : LineState} (on : c.On text)
    (reads : l.Reads text c segments state) (found : l.ruleAt? c = some (.construct r, stop))
    (stays : r.closeAt? stop = none) :
    segments = [⟨c.offset, byteLength text, .construct r⟩] ∧ state = ⟨r.stateId⟩ := by
  cases reads with
  | ended done =>
    have shorter := rest_length_of_ruleAt? found
    simp [done] at shorter
  | gap _ wide quiet =>
    rw [quiet c on (Nat.le_refl _) wide] at found
    cases found
  | pattern found' =>
    rw [found] at found'
    cases found'
  | closed found' closes =>
    rw [found] at found'
    cases found'
    rw [stays] at closes
    cases closes
  | opened found' =>
    rw [found] at found'
    cases found'
    exact ⟨rfl, rfl⟩

theorem Reads.exists_cons {l : Language} {text : List Char} {c : Cursor} {segments : List Segment}
    {state : LineState} (reads : l.Reads text c segments state) (more : c.rest ≠ []) :
    ∃ s rest, segments = s :: rest := by
  cases reads with
  | ended done => exact absurd done more
  | gap => exact ⟨_, _, rfl⟩
  | pattern => exact ⟨_, _, rfl⟩
  | closed => exact ⟨_, _, rfl⟩
  | opened => exact ⟨_, _, rfl⟩

/-! ## The fence -/

/-- What a fence is made of. -/
def fenceMark : List Char := "```".toList

/-- The line starts with three back-quotes. -/
def isFence (line : String) : Bool := fenceMark.isPrefixOf line.toList

/-- The construct of code blocks. -/
def codeBlock : Construct :=
  ⟨"code_block", .atStart fenceMark, .atStart fenceMark, .fencedCode, none, 1⟩

/-- The scope of code blocks. -/
def blockScope : String := "markup.fenced_code.block.markdown"

theorem filledAt?_fence (c : Cursor) :
    codeBlock.opener.filledAt? c = if c.before = [] then c.skip? fenceMark else none := by
  show (Regex.atStart fenceMark).filledAt? c = _
  rw [Regex.filledAt?, Regex.matchAt?_atStart]
  split
  next =>
    cases found : c.skip? fenceMark with
    | none => rfl
    | some d =>
      have wide : c.offset < d.offset := by
        rw [(Cursor.skip?_eq_some_iff.mp found).2.2]
        exact Nat.lt_add_of_pos_right (by decide)
      simp [wide]
  next => rfl

/-- A block is closed where it could be opened. -/
theorem closeAt?_fence (c : Cursor) :
    codeBlock.closeAt? c = if c.before = [] then c.skip? fenceMark else none := by
  show (if c.atEnd then none else ((Regex.atStart fenceMark).search? c).map (·.stop)) = _
  split
  next ended =>
    have none : c.skip? fenceMark = none := by
      simp [Cursor.skip?, fenceMark, Cursor.atEnd_iff.mp ended]
    simp [none]
  next =>
    rw [Regex.search?_atStart, Regex.matchAt?_atStart, Option.map_map]
    exact Option.map_id_apply

/-- A line is a fence exactly where there is a place behind the mark at its start. -/
theorem isSome_skip?_start {line : String} :
    ((Cursor.start line.toList).skip? fenceMark).isSome = isFence line := by
  rw [Bool.eq_iff_iff, Cursor.isSome_skip?_iff, isFence, List.isPrefixOf_iff_prefix]
  rfl

theorem before_ne_nil_of_skip? {c d : Cursor} (found : c.skip? fenceMark = some d) :
    d.before ≠ [] := by
  rw [(Cursor.skip?_eq_some_iff.mp found).2.1]
  simp [fenceMark]

theorem scope_eq_blockScope_iff (kind : ScopeKind) :
    kind.scope "markdown" = blockScope ↔ kind = .fencedCode := by
  cases kind <;> decide

/-! ## From one line to the next -/

/-- The state inside and outside of a block. -/
def blockState (inside : Bool) : LineState := ⟨if inside then 1 else 0⟩

theorem isInside_blockState (inside : Bool) : (blockState inside).isInside = inside := by
  cases inside <;> rfl

/-- The only construct is that of code blocks, and no pattern rule assigns their scope. -/
structure Fenced (l : Language) : Prop where
  constructs : l.constructs = [codeBlock]
  kind_ne : ∀ r ∈ l.patterns, r.kind ≠ .fencedCode
  scopeName : l.scopeName = "text.html.markdown"
  suffix : l.suffix = "markdown"

namespace Fenced

variable {l : Language} (fenced : Fenced l) {line : String}

include fenced

theorem carried?_inside : l.carried? (blockState true) = some codeBlock := by
  rw [carried?, isInside_blockState, if_pos rfl, construct?, fenced.constructs]
  rfl

/-- Behind the start of a line no block is opened. -/
theorem shut_of_before {c : Cursor} (inner : c.before ≠ []) (d : Cursor) (reached : c.Reaches d) :
    ∀ r ∈ l.constructs, r.opener.filledAt? d = none := by
  rw [fenced.constructs]
  intro r mem
  obtain rfl := List.mem_singleton.mp mem
  obtain ⟨between, -, passed, -⟩ := reached
  rw [filledAt?_fence, if_neg (by simp [passed, inner])]

/-- No block is opened on a line that is no fence. -/
theorem shut_of_not_isFence (plain : isFence line = false) (d : Cursor)
    (reached : (Cursor.start line.toList).Reaches d) :
    ∀ r ∈ l.constructs, r.opener.filledAt? d = none := by
  by_cases first : d.before = []
  · -- nothing has been read yet, and the mark does not stand here
    have here : d = Cursor.start line.toList := by
      apply reached.eq_of_offset
      rw [(reached.on (Cursor.start_on _)).2, first]
      rfl
    have none : d.skip? fenceMark = none := by
      rw [here, ← Option.not_isSome_iff_eq_none, isSome_skip?_start, plain]
      simp
    rw [fenced.constructs]
    intro r mem
    obtain rfl := List.mem_singleton.mp mem
    rw [filledAt?_fence, if_pos first, none]
  · exact fenced.shut_of_before first d (.refl d)

/-- A fence outside of a block opens one, which takes up its line. -/
theorem scanRest_fence (fence : isFence line = true) :
    l.scanRest (.start line.toList) =
      ([⟨0, byteSize line, .construct codeBlock⟩], blockState true) := by
  have on := Cursor.start_on line.toList
  rw [← isSome_skip?_start] at fence
  obtain ⟨d, found⟩ := Option.isSome_iff_exists.mp fence
  have opens : codeBlock.opener.filledAt? (.start line.toList) = some d := by
    rw [filledAt?_fence, if_pos (show (Cursor.start line.toList).before = [] from rfl), found]
  have first : l.ruleAt? (.start line.toList) = some (.construct codeBlock, d) := by
    rw [ruleAt?, rules, fenced.constructs, List.map_singleton, List.singleton_append,
      List.findSome?_cons,
      show (LanguageRule.construct codeBlock).leading.filledAt? _ = _ from opens]
    rfl
  have stays : codeBlock.closeAt? d = none := by
    rw [closeAt?_fence, if_neg (before_ne_nil_of_skip? found)]
  obtain ⟨segments, state⟩ := (l.scanRest_reads on).of_opening on first stays
  exact Prod.ext segments state

/-- A fence turns the state around, and any other line leaves it. The first segment of a line is
that of a block where the line begins inside of one or is a fence, and else that of no construct. -/
theorem scan (filled : line ≠ "") (inside : Bool) :
    (l.scan line (blockState inside)).2 = blockState (inside ^^ isFence line) ∧
      ∃ s rest, (l.scan line (blockState inside)).1 = s :: rest ∧
        if inside || isFence line then s.origin = .construct codeBlock
        else s.origin = .gap ∨ ∃ r ∈ l.patterns, s.origin = .pattern r := by
  have on := Cursor.start_on line.toList
  have closing : codeBlock.closeAt? (.start line.toList) =
      (Cursor.start line.toList).skip? fenceMark := by
    rw [closeAt?_fence, if_pos (show (Cursor.start line.toList).before = [] from rfl)]
  have same : (codeBlock.closeAt? (.start line.toList)).isSome = isFence line := by
    rw [closing, isSome_skip?_start]
  cases inside with
  | false =>
    rcases l.scan_cases filled (blockState false) with ⟨-, scanned⟩ | ⟨r, known, -⟩
    · rw [scanned]
      cases fence : isFence line with
      | true =>
        rw [fenced.scanRest_fence fence]
        exact ⟨rfl, _, _, rfl, rfl⟩
      | false =>
        have reads := l.scanRest_reads on
        obtain ⟨normal, plain⟩ := reads.without_constructs (fenced.shut_of_not_isFence fence)
        obtain ⟨s, rest, segments⟩ :=
          reads.exists_cons (mt Cursor.atEnd_iff.mpr (Cursor.not_atEnd_start filled))
        refine ⟨normal, s, rest, segments, plain s ?_⟩
        rw [segments]
        exact List.mem_cons_self
    · rw [carried?, isInside_blockState, if_neg Bool.false_ne_true] at known
      cases known
  | true =>
    rcases l.scan_cases filled (blockState true) with
      ⟨none, -⟩ | ⟨r, known, ⟨stays, scanned⟩ | ⟨close, closes, scanned⟩⟩
    · rw [fenced.carried?_inside] at none
      cases none
    · obtain rfl := Option.some.inj (fenced.carried?_inside.symm.trans known)
      rw [stays] at same
      rw [scanned, ← same]
      exact ⟨rfl, _, _, rfl, rfl⟩
    · obtain rfl := Option.some.inj (fenced.carried?_inside.symm.trans known)
      rw [closes] at same
      rw [scanned, ← same]
      -- behind the mark nothing is opened
      have inner := before_ne_nil_of_skip? (closing.symm.trans closes)
      have reads := l.scanRest_reads ((Construct.reaches_of_closeAt? closes).on on)
      exact ⟨(reads.without_constructs (fenced.shut_of_before inner)).1, _, _, rfl, rfl⟩

/-- The innermost scope tells blocks from the gaps and the matches of pattern rules. -/
theorem getLast?_chain_eq_iff {origin : Origin} {block : Bool}
    (known : if block then origin = .construct codeBlock
      else origin = .gap ∨ ∃ r ∈ l.patterns, origin = .pattern r) :
    (l.chain origin).getLast? = some blockScope ↔ block := by
  cases block with
  | true =>
    obtain rfl : origin = .construct codeBlock := known
    rw [chain, fenced.suffix, List.getLast?_cons_cons, List.getLast?_singleton, Option.some_inj,
      scope_eq_blockScope_iff]
    exact iff_of_true rfl rfl
  | false =>
    rcases known with rfl | ⟨r, mem, rfl⟩
    · rw [chain, fenced.scopeName]
      decide
    · rw [chain, fenced.suffix, List.getLast?_cons_cons, List.getLast?_singleton, Option.some_inj,
        scope_eq_blockScope_iff]
      exact iff_of_false (fenced.kind_ne r mem) Bool.false_ne_true

end Fenced

/-! ## Along a document -/

/-- Handing a state from line to line, with blank lines left out, leads to the state behind the
lines. -/
theorem stateBehind_grammar (b : BoundLanguage) (lines : List String) :
    (b.grammar.stateBehind none lines).getD .normal = b.language.stateAfter lines := by
  induction lines using List.reverseRecOn with
  | nil => rfl
  | append_singleton lines line ih =>
    rw [stateAfter_concat, ← ih, Grammar.stateBehind, List.foldl_concat]
    split
    next blank =>
      rw [blank, scan_blank]
      rfl
    next => rfl

/-- The number of fences among the lines is odd. -/
def oddFences (lines : List String) : Bool := lines.countP isFence % 2 = 1

theorem oddFences_concat (lines : List String) (line : String) :
    oddFences (lines ++ [line]) = (oddFences lines ^^ isFence line) := by
  unfold oddFences
  rw [List.countP_append, List.countP_singleton]
  rcases Nat.mod_two_eq_zero_or_one (lines.countP isFence) with even | odd
  · cases isFence line <;> simp [Nat.add_mod, even]
  · cases isFence line <;> simp [Nat.add_mod, odd]

/-- Behind any lines the state is that of a block where an odd number of them are fences. -/
theorem Fenced.stateAfter_eq {l : Language} (fenced : Fenced l) (lines : List String) :
    l.stateAfter lines = blockState (oddFences lines) := by
  induction lines using List.reverseRecOn with
  | nil => rfl
  | append_singleton lines line ih =>
    rw [stateAfter_concat, ih, oddFences_concat]
    by_cases blank : line = ""
    · subst blank
      have plain : isFence "" = false := by decide
      rw [plain, Bool.xor_false, scan_blank]
    · exact (fenced.scan blank _).1

/-! ## Markdown -/

theorem compile?_codeBlock :
    Construct.compile? "code_block" "^```" "^```" .fencedCode 1 none = some codeBlock := by
  have fence : Regex.read? "^```" = some (.atStart fenceMark) :=
    Regex.read?_atStart (by decide +kernel)
  rw [Construct.compile?, fence]
  rfl

/-- Whether a written rule has a kind is seen before its pattern is read. -/
theorem forall_mem_compile? {name source : String} {kind other : ScopeKind} {priority : Int}
    {P : PatternRule → Prop} :
    (∀ r ∈ PatternRule.compile? name source kind priority, r.kind = other → P r) ↔
      (kind = other → ∀ p ∈ Regex.read? source, P ⟨name, p, kind, priority⟩) := by
  simp only [PatternRule.compile?, Option.mem_map]
  constructor
  · exact fun all same p read => all _ ⟨p, read, rfl⟩ same
  · rintro all _ ⟨p, read, rfl⟩ same
    exact all same p read

theorem id_markdown : markdown.id = "markdown" := by
  rw [markdown, addRules_eq rfl]
  rfl

theorem fenced_markdown : Fenced markdown where
  constructs := by
    rw [markdown, addRules_eq rfl, compile?_codeBlock]
    rfl
  kind_ne := by
    rw [markdown, forall_mem_patterns_addRules rfl]
    simp only [List.forall_mem_cons, Ne, forall_mem_compile?, reduceCtorEq, false_imp_iff, true_and,
      List.not_mem_nil, forall_const]
  scopeName := by rw [markdown, addRules_eq rfl]
  suffix := by
    rw [markdown, addRules_eq rfl]
    rfl

theorem Fenced.numbered {l : Language} (fenced : Fenced l) (added : List Language) (id : String) :
    Fenced (Registry.numbered added id l) :=
  ⟨fenced.constructs, fenced.kind_ne, fenced.scopeName, fenced.suffix⟩

theorem exists_builtin_markdown : ∃ l, Registry.builtin.language "markdown" = .ok l ∧ Fenced l := by
  have found := Registry.language_concat [rust, c, python, toml] markdown
  rw [id_markdown] at found
  exact ⟨_, found, fenced_markdown.numbered _ _⟩

/-- Whatever the theme and the palette are, and whatever lines come before: behind these lines a
code block is open exactly where an odd number of them are fences. The first token of a line with
text is that of a block exactly where the line is a fence or such a block is open. -/
theorem fences_toggle (theme : Theme) (palette : Palette) (lines : List String) :
    ∃ l, Registry.builtin.language "markdown" = .ok l ∧
      let g := (BoundLanguage.mk l theme palette).grammar
      let prior := g.stateBehind none lines
      ((prior.getD .normal).isInside ↔ lines.countP isFence % 2 = 1) ∧
        ∀ line, line ≠ "" → ∃ t ts, (g.tokens line prior).1 = t :: ts ∧
          (t.scopes.getLast? = some "markup.fenced_code.block.markdown" ↔
            isFence line ∨ lines.countP isFence % 2 = 1) := by
  obtain ⟨l, found, fenced⟩ := exists_builtin_markdown
  refine ⟨l, found, ?_⟩
  intro g prior
  have state : prior.getD .normal = blockState (oddFences lines) :=
    (stateBehind_grammar ⟨l, theme, palette⟩ lines).trans (fenced.stateAfter_eq lines)
  refine ⟨by simp [state, isInside_blockState, oddFences], ?_⟩
  intro line filled
  obtain ⟨-, s, rest, scanned, known⟩ := fenced.scan filled (oddFences lines)
  rw [← state] at scanned
  refine ⟨_, _,
    BoundLanguage.grammar_tokens (b := ⟨l, theme, palette⟩) scanned (List.cons_ne_nil _ _), ?_⟩
  rw [show "markup.fenced_code.block.markdown" = blockScope from rfl]
  exact (fenced.getLast?_chain_eq_iff known).trans (by simp [oddFences, or_comm])

/-- A block with a blank line in it: it is open behind this line, and the text after it is part of
it. -/
theorem fences_toggle_blank :
    let lines := ["Some code:", "```rust", ""]
    let theme : Theme := ⟨"plain", none, none, []⟩
    ∃ l, Registry.builtin.language "markdown" = .ok l ∧
      let g := (BoundLanguage.mk l theme (.ofTheme theme)).grammar
      let prior := g.stateBehind none lines
      (prior.getD .normal).isInside = true ∧ "let x = 1;" ≠ "" ∧
        ∃ t ts, (g.tokens "let x = 1;" prior).1 = t :: ts ∧
          t.scopes.getLast? = some "markup.fenced_code.block.markdown" := by
  intro lines theme
  have odd : lines.countP isFence % 2 = 1 := by decide
  have filled : "let x = 1;" ≠ "" := by decide
  obtain ⟨l, found, state, first⟩ := fences_toggle theme (.ofTheme theme) lines
  obtain ⟨t, ts, tokens, scope⟩ := first "let x = 1;" filled
  exact ⟨l, found, state.mpr odd, filled, t, ts, tokens, scope.mpr (.inr odd)⟩

end Highlight.Language
