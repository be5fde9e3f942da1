import Highlight.Proofs.Language.Fences
import Highlight.Proofs.Language.Greedy
import Highlight.Proofs.Pattern.Runs

/-!
# Operators and the marks that open comments

In Rust and in C the slash and the star are operator signs, and two of them open a comment. The
rules for comments outrank those for operators, so where both match at a place the comment is taken.
Hence no operator starts with a mark that opens a comment, unless a line feed further on keeps a
line comment from being one (`SlashComments.unopened`).

But an operator is all the signs that stand in a row, and behind its start no other rule is looked
at. So a mark with another sign directly before it is part of an operator, and `a=/* b` opens no
comment (`operator_holds_mark`). There is no other way for an operator to hold a mark
(`operators_hold_marks_behind_signs`).

`SlashComments` lists what the argument takes of a language.
-/

namespace Highlight

namespace ScopeKind

theorem stem_eq_operator_iff (kind : ScopeKind) :
    kind.stem = stem .operator ↔ kind = .operator := by
  cases kind <;> decide

theorem scope_eq_operator_iff {kind : ScopeKind} {suffix : String} :
    kind.scope suffix = scope .operator suffix ↔ kind = .operator := by
  rw [← stem_eq_operator_iff, scope, scope]
  split
  next => rfl
  next => rw [String.append_left_inj, String.append_left_inj]

end ScopeKind

namespace Language

/-- What opens a comment to the end of the line. -/
def lineMark : List Char := ['/', '/']

/-- What opens a comment that may stretch over lines. -/
def blockMark : List Char := ['/', '*']

theorem lineMark_ne_nil : lineMark ≠ [] := List.cons_ne_nil _ _

theorem blockMark_ne_nil : blockMark ≠ [] := List.cons_ne_nil _ _

/-- One or more of the given signs. -/
def signRun (signs : List Char) : Pattern := .many (.set (.ofChars signs)) ⟨1, none, true⟩

/-- The priority of the rules for operators. -/
def operatorPriority : Int := 40

/-- Comments are opened by two slashes or by a slash and a star, and operators are runs of the given
signs. The rules for comments outrank those for operators. -/
structure SlashComments (l : Language) (signs : List Char) : Prop where
  sorted : l.rules.Pairwise fun a b => ¬ b.Outranks a
  block : ∃ r ∈ l.constructs, r.opener = .literal blockMark
  line : ∃ r ∈ l.patterns,
    r.pattern = (Pattern.restOfLine lineMark).regex ∧ operatorPriority < r.priority
  run : ∀ r ∈ l.patterns, r.kind = .operator →
    r.pattern = (signRun signs).regex ∧ r.priority = operatorPriority
  kind_ne : ∀ r ∈ l.constructs, r.kind ≠ .operator
  scopeName_ne : l.scopeName ≠ ScopeKind.operator.scope l.suffix

/-- The bytes from `start` to `stop` of a line are an operator: all the signs that stand in a row
there. A mark in it has other signs before it, or it is that of a line comment and the line has a
line feed. -/
def OperatorAt (signs : List Char) (line : String) (start stop : Nat) : Prop :=
  ∃ before run behind, line.toList = before ++ run ++ behind ∧ byteLength before = start ∧
    byteLength (before ++ run) = stop ∧ run ≠ [] ∧ (run ++ behind).takeWhile (· ∈ signs) = run ∧
    ∀ mark ∈ [lineMark, blockMark], ∀ front back, run = front ++ mark ++ back →
      front ≠ [] ∨ mark = lineMark ∧ '\n' ∈ line.toList

namespace SlashComments

variable {l : Language} {signs : List Char} (slash : SlashComments l signs)

include slash

theorem run_of_ruleAt? {c stop : Cursor} {r : PatternRule}
    (found : l.ruleAt? c = some (.pattern r, stop)) (operator : r.kind = .operator) :
    r.pattern = (signRun signs).regex ∧ r.priority = operatorPriority ∧
      r.pattern.filledAt? c = some stop := by
  have found : l.ruleAt? c = some (LanguageRule.origin (.pattern r), stop) := found
  obtain ⟨rule, mem, same, filled⟩ := exists_rule_of_ruleAt? found
  obtain rfl := LanguageRule.origin_injective same
  have member : r ∈ l.patterns := by simpa [rules] using mem
  obtain ⟨pattern, priority⟩ := slash.run r member operator
  exact ⟨pattern, priority, filled⟩

/-- Where an operator is taken, no block comment is opened, and a line comment only where a line
feed keeps it from being one. -/
theorem unopened {c stop : Cursor} {r : PatternRule} (found : l.ruleAt? c = some (.pattern r, stop))
    (operator : r.kind = .operator) :
    ¬ blockMark <+: c.rest ∧ (lineMark <+: c.rest → '\n' ∈ c.rest) := by
  have highest {q : LanguageRule} (mem : q ∈ l.rules) (filled : (q.leading.filledAt? c).isSome) :
      ¬ q.Outranks (.pattern r) :=
    not_outranks_of_ruleAt? (r := .pattern r) slash.sorted found mem filled
  constructor
  · intro stands
    obtain ⟨block, mem, opens⟩ := slash.block
    have filled : (block.opener.filledAt? c).isSome := by
      rw [opens, Regex.filledAt?_literal blockMark_ne_nil]
      exact Cursor.isSome_skip?_iff.mpr stands
    exact highest (q := .construct block)
      (List.mem_append_left _ (List.mem_map_of_mem mem)) filled trivial
  · intro stands
    by_contra oneLine
    obtain ⟨comment, mem, reads, above⟩ := slash.line
    have filled : (comment.pattern.filledAt? c).isSome := by
      rw [reads]
      exact Pattern.filledAt?_restOfLine lineMark_ne_nil stands oneLine
    apply highest (q := .pattern comment) (List.mem_append_right _ (List.mem_map_of_mem mem)) filled
    rw [← (slash.run_of_ruleAt? found operator).2.1] at above
    exact above

/-- An operator is all the signs that stand in a row at its start. -/
theorem eq_takeWhile {c stop : Cursor} {r : PatternRule}
    (found : l.ruleAt? c = some (.pattern r, stop)) (operator : r.kind = .operator) :
    let run := c.rest.takeWhile (· ∈ signs)
    run ≠ [] ∧ c.rest = run ++ stop.rest ∧ stop.offset = c.offset + byteLength run := by
  intro run
  obtain ⟨pattern, -, filled⟩ := slash.run_of_ruleAt? found operator
  have test : (CharSet.ofChars signs).mem = fun ch => decide (ch ∈ signs) := by
    funext ch
    rw [Bool.eq_iff_iff, CharSet.mem_ofChars, decide_eq_true_eq]
  obtain ⟨matched, wide⟩ := Regex.filledAt?_eq_some_iff.mp filled
  rw [pattern, Pattern.matchAt?_regex, signRun, Pattern.matchAt?_plus, test] at matched
  split at matched
  next =>
    obtain rfl := Option.some.inj matched
    refine ⟨?_, List.takeWhile_append_dropWhile.symm, rfl⟩
    intro none
    have narrow : c.offset + byteLength run = c.offset := by rw [none]; rfl
    exact absurd narrow (Nat.ne_of_gt wide)
  next => cases matched

theorem operatorAt_of_ruleAt? {line : String} {c stop : Cursor} {r : PatternRule}
    (on : c.On line.toList) (found : l.ruleAt? c = some (.pattern r, stop))
    (operator : r.kind = .operator) :
    OperatorAt signs line c.offset stop.offset := by
  obtain ⟨filled, spells, further⟩ := slash.eq_takeWhile found operator
  obtain ⟨noBlock, noLine⟩ := slash.unopened found operator
  obtain ⟨line_eq, offset_eq⟩ := on
  refine ⟨c.before.reverse, c.rest.takeWhile (· ∈ signs), stop.rest, ?_, offset_eq.symm, ?_,
    filled, ?_, ?_⟩
  · rw [List.append_assoc, ← spells, line_eq]
  · rw [byteLength_append, ← offset_eq, further]
  · rw [← spells]
  · intro mark known front back holds
    refine or_iff_not_imp_left.mpr fun none => ?_
    have none : front = [] := not_not.mp none
    have stands : mark <+: c.rest := by
      rw [none, List.nil_append] at holds
      exact ⟨back ++ stop.rest, by rw [← List.append_assoc, ← holds, ← spells]⟩
    rcases List.mem_pair.mp known with rfl | rfl
    · refine ⟨rfl, ?_⟩
      rw [← line_eq]
      exact List.mem_append_right _ (noLine stands)
    · exact absurd stands noBlock

/-- A segment with the scope of operators was recognised on its line and not carried over from the
line before. -/
theorem exists_ruleAt? {line : String} {prior : LineState} {s : Segment}
    (mem : s ∈ (l.scan line prior).1)
    (innermost : (l.chain s.origin).getLast? = some (ScopeKind.operator.scope l.suffix)) :
    ∃ c stop r, c.On line.toList ∧ l.ruleAt? c = some (.pattern r, stop) ∧ r.kind = .operator ∧
      s.start = c.offset ∧ s.stop = stop.offset := by
  have filled : line ≠ "" := by
    rintro rfl
    cases mem
  -- the scope tells kinds apart, and no construct has the kind of operators
  have plain {r : Construct} (known : r ∈ l.constructs) : s.origin ≠ .construct r := by
    intro same
    rw [same] at innermost
    exact slash.kind_ne r known (ScopeKind.scope_eq_operator_iff.mp (Option.some.inj innermost))
  obtain ⟨rest, scanned, recognised, -⟩ := l.scan_segments filled prior
  rw [scanned] at mem
  rcases List.mem_append.mp mem with carried | later
  · obtain ⟨r, known, rfl⟩ := Option.map_eq_some_iff.mp (Option.mem_toList.mp carried)
    exact absurd rfl (plain (carried?_eq_some known).1)
  · cases recognised s later with
    | gap => exact absurd (Option.some.inj innermost) slash.scopeName_ne
    | @rule c stop rule on found =>
      cases rule with
      | construct r => exact absurd rfl (plain (opener_of_ruleAt? found).1)
      | pattern r =>
        exact ⟨c, stop, r, on, found,
          ScopeKind.scope_eq_operator_iff.mp (Option.some.inj innermost), rfl, rfl⟩

theorem operatorAt_of_mem {theme : Theme} {palette : Palette} {line : String}
    {prior : Option LineState} {t : ScopedToken}
    (mem : t ∈ ((BoundLanguage.mk l theme palette).grammar.tokens line prior).1)
    (innermost : t.scopes.getLast? = some (ScopeKind.operator.scope l.suffix)) :
    OperatorAt signs line t.start t.stop := by
  cases scanned : (l.scan line (prior.getD .normal)).1 with
  | nil =>
    have blank : ((BoundLanguage.mk l theme palette).grammar.tokens line prior).1 =
        [⟨0, 0, l.chain .gap⟩] := by
      show BoundLanguage.scopedTokens _ (l.scan line (prior.getD .normal)).1 = _
      rw [scanned]
      rfl
    obtain rfl := List.mem_singleton.mp (blank ▸ mem)
    exact absurd (Option.some.inj innermost) slash.scopeName_ne
  | cons first rest =>
    rw [BoundLanguage.grammar_tokens (b := ⟨l, theme, palette⟩) scanned (List.cons_ne_nil _ _),
      ← scanned] at mem
    obtain ⟨s, segment, rfl⟩ := List.mem_map.mp mem
    obtain ⟨c, stop, r, on, found, operator, start, ends⟩ := slash.exists_ruleAt? segment innermost
    show OperatorAt signs line s.start s.stop
    rw [start, ends]
    exact slash.operatorAt_of_ruleAt? on found operator

end SlashComments

/-! ## Rust and C -/

/-- The rule for comments to the end of the line. -/
def lineComment : PatternRule :=
  ⟨"line_comment", (Pattern.restOfLine lineMark).regex, .lineComment, 100⟩

theorem compile?_lineComment :
    PatternRule.compile? "line_comment" "//.*$" .lineComment 100 = some lineComment := by
  have read : Pattern.parse? "//.*$" = some (.restOfLine lineMark) := by decide +kernel
  rw [PatternRule.compile?, Regex.read?, read]
  rfl

/-- The construct for comments that may stretch over lines. -/
def blockComment : Construct :=
  ⟨"block_comment", .literal blockMark, .literal ['*', '/'], .blockComment, none, 1⟩

theorem compile?_blockComment :
    Construct.compile? "block_comment" "/\\*" "\\*/" .blockComment 1 none = some blockComment := by
  have opener : Regex.read? "/\\*" = some (.literal blockMark) :=
    Regex.read?_literal (by decide +kernel)
  have closer : Regex.read? "\\*/" = some (.literal ['*', '/']) :=
    Regex.read?_literal (by decide +kernel)
  rw [Construct.compile?, opener, closer]
  rfl

theorem kind_ne_of_compile? {name opener closer : String} {kind other : ScopeKind} {id : UInt8}
    {escape : Option Char} (differs : kind ≠ other) :
    ∀ r ∈ Construct.compile? name opener closer kind id escape, r.kind ≠ other := by
  intro r mem
  obtain ⟨o, -, rest⟩ := Option.bind_eq_some_iff.mp mem
  obtain ⟨p, -, made⟩ := Option.bind_eq_some_iff.mp rest
  obtain rfl := Option.some.inj made
  exact differs

theorem slashComments_addRules {l : Language} {signs : List Char}
    {constructs : List (Option Construct)} {patterns : List (Option PatternRule)}
    (empty : l.rules = []) (block : some blockComment ∈ constructs)
    (kind_ne : ∀ written ∈ constructs, ∀ r ∈ written, r.kind ≠ .operator)
    (line : some lineComment ∈ patterns)
    (run : ∀ written ∈ patterns, ∀ r ∈ written,
      r.kind = .operator → r.pattern = (signRun signs).regex ∧ r.priority = operatorPriority)
    (scopeName_ne : l.scopeName ≠ ScopeKind.operator.scope l.suffix) :
    SlashComments (l.addRules constructs patterns) signs := by
  have listed {r : Construct} : r ∈ (l.addRules constructs patterns).constructs ↔
      some r ∈ constructs := by
    rw [addRules_eq empty]
    simp
  constructor
  case sorted => exact sorted_rules_addRules empty
  case block => exact ⟨blockComment, listed.mpr block, rfl⟩
  case line => exact ⟨lineComment, (mem_patterns_addRules empty).mpr line, rfl, by decide⟩
  case run => exact (forall_mem_patterns_addRules empty).mpr run
  case kind_ne => exact fun r mem => kind_ne _ (listed.mp mem) r rfl
  case scopeName_ne => rwa [addRules_eq empty]

theorem slashComments_rust : SlashComments rust "+-*/%&|^!<>=@".toList := by
  have run : Regex.read? "[+\\-*/%&|^!<>=@]+" = some (signRun "+-*/%&|^!<>=@".toList).regex :=
    Regex.read?_of_parse? (by decide +kernel)
  refine slashComments_addRules rfl ?_ ?_ ?_ ?_ ?_
  · rw [← compile?_blockComment]
    simp only [List.mem_cons, true_or]
  · simp only [List.forall_mem_cons, List.not_mem_nil, false_imp_iff, implies_true, and_true]
    exact ⟨kind_ne_of_compile? (by decide), kind_ne_of_compile? (by decide),
      kind_ne_of_compile? (by decide)⟩
  · rw [← compile?_lineComment]
    simp only [List.mem_cons, true_or, or_true]
  · -- only the rule for operators is left to be read
    simp only [List.forall_mem_cons, forall_mem_compile?, reduceCtorEq, false_imp_iff, true_and,
      forall_const, List.not_mem_nil, and_true, run, Option.mem_some_iff]
    exact fun p same => ⟨same.symm, rfl⟩
  · decide

theorem slashComments_c : SlashComments c "+-*/%&|^!<>=~?:".toList := by
  have run : Regex.read? "[+\\-*/%&|^!<>=~?:]+" = some (signRun "+-*/%&|^!<>=~?:".toList).regex :=
    Regex.read?_of_parse? (by decide +kernel)
  refine slashComments_addRules rfl ?_ ?_ ?_ ?_ ?_
  · rw [← compile?_blockComment]
    simp only [List.mem_cons, true_or]
  · simp only [List.forall_mem_cons, List.not_mem_nil, false_imp_iff, implies_true, and_true]
    exact ⟨kind_ne_of_compile? (by decide), kind_ne_of_compile? (by decide)⟩
  · rw [← compile?_lineComment]
    simp only [List.mem_cons, true_or]
  · -- only the rule for operators is left to be read
    simp only [List.forall_mem_cons, forall_mem_compile?, reduceCtorEq, false_imp_iff, true_and,
      forall_const, List.not_mem_nil, and_true, run, Option.mem_some_iff]
    exact fun p same => ⟨same.symm, rfl⟩
  · decide

theorem SlashComments.numbered {l : Language} {signs : List Char} (slash : SlashComments l signs)
    (added : List Language) (id : String) : SlashComments (Registry.numbered added id l) signs :=
  ⟨slash.sorted, slash.block, slash.line, slash.run, slash.kind_ne, slash.scopeName_ne⟩

/-- The built-in languages with such comments, by their ids, and the signs of their operators. -/
def operatorSigns : List (String × String) := [("rust", "+-*/%&|^!<>=@"), ("c", "+-*/%&|^!<>=~?:")]

theorem map_id_builtin :
    [rust, c, python, toml, markdown].map Language.id =
      ["rust", "c", "python", "toml", "markdown"] := by
  simp only [List.map_cons, List.map_nil, rust, c, python, toml, markdown]
  rw [addRules_eq rfl, addRules_eq rfl, addRules_eq rfl, addRules_eq rfl, addRules_eq rfl]
  rfl

/-- A built-in language is found under its id. -/
theorem language_builtin {l : Language} (mem : l ∈ [rust, c, python, toml, markdown]) :
    Registry.builtin.language l.id =
    .ok (Registry.numbered [rust, c, python, toml, markdown] (Unicode.lowercase l.id) l) := by
  refine Registry.language_of_mem ?_ mem
  have ids : ([rust, c, python, toml, markdown].map fun l => Unicode.lowercase l.id) =
      ["rust", "c", "python", "toml", "markdown"].map Unicode.lowercase := by
    rw [← map_id_builtin, List.map_map]
    rfl
  rw [ids]
  decide +kernel

theorem id_rust : rust.id = "rust" := (List.cons.inj map_id_builtin).1

theorem id_c : c.id = "c" := (List.cons.inj (List.cons.inj map_id_builtin).2).1

theorem exists_builtin_slashComments {id signs : String} (known : (id, signs) ∈ operatorSigns) :
    ∃ l, Registry.builtin.language id = .ok l ∧ SlashComments l signs.toList ∧ l.suffix = id := by
  have found {l : Language} (mem : l ∈ [rust, c, python, toml, markdown])
      (slash : SlashComments l signs.toList)
      (named : l.id = id) (suffix : l.suffix = id) :
      ∃ l, Registry.builtin.language id = .ok l ∧ SlashComments l signs.toList ∧ l.suffix = id :=
    ⟨_, named ▸ language_builtin mem, slash.numbered _ _, suffix⟩
  rcases List.mem_pair.mp known with same | same
  · cases same
    refine found (l := rust) (by simp) slashComments_rust id_rust ?_
    rw [rust, addRules_eq rfl]
    rfl
  · cases same
    refine found (l := c) (by simp) slashComments_c id_c ?_
    rw [c, addRules_eq rfl]
    rfl

/-- A comment directly behind an equals sign: sign and mark are one operator, and the line ends
outside of all constructs. -/
theorem tokens_assigned_block {l : Language} (found : Registry.builtin.language "rust" = .ok l) :
    let theme : Theme := ⟨"plain", none, none, []⟩
    (BoundLanguage.mk l theme (.ofTheme theme)).grammar.tokens "a=/* b" none =
      ([⟨0, 1, ["source.rust"]⟩, ⟨1, 4, ["source.rust", "keyword.operator.rust"]⟩,
        ⟨4, 6, ["source.rust"]⟩], .normal) := by
  have known := language_builtin (l := rust) (by simp)
  rw [id_rust] at known
  obtain rfl := Except.ok.inj (found.symm.trans known)
  rw [rust, addRules_eq rfl]
  decide +kernel

/-- In Rust and in C, whatever the theme and the palette are, on every line and in every state: a
token with the scope of operators is all the signs that stand in a row at its start. A mark that
opens a comment stands in it only behind other signs, or it is that of a line comment and the line
has a line feed. -/
theorem operators_hold_marks_behind_signs {id signs : String} (known : (id, signs) ∈ operatorSigns)
    (theme : Theme) (palette : Palette) (line : String) (prior : Option LineState) :
    ∃ l, Registry.builtin.language id = .ok l ∧
      ∀ t ∈ ((BoundLanguage.mk l theme palette).grammar.tokens line prior).1,
        t.scopes.getLast? = some ("keyword.operator." ++ id) →
          OperatorAt signs.toList line t.start t.stop := by
  obtain ⟨l, found, slash, suffix⟩ := exists_builtin_slashComments known
  refine ⟨l, found, ?_⟩
  intro t mem innermost
  have scope : ScopeKind.operator.scope l.suffix = "keyword.operator." ++ id := by
    rw [suffix]
    rcases List.mem_pair.mp known with same | same <;> cases same <;> rfl
  exact slash.operatorAt_of_mem mem (scope ▸ innermost)

theorem operators_hold_marks_behind_signs_assigned :
    let theme : Theme := ⟨"plain", none, none, []⟩
    ("rust", "+-*/%&|^!<>=@") ∈ operatorSigns ∧ ∃ l, Registry.builtin.language "rust" = .ok l ∧
      ⟨1, 4, ["source.rust", "keyword.operator.rust"]⟩ ∈
        ((BoundLanguage.mk l theme (.ofTheme theme)).grammar.tokens "a=/* b" none).1 ∧
      OperatorAt "+-*/%&|^!<>=@".toList "a=/* b" 1 4 := by
  intro theme
  have known : ("rust", "+-*/%&|^!<>=@") ∈ operatorSigns := List.mem_cons_self
  obtain ⟨l, found, each⟩ :=
    operators_hold_marks_behind_signs known theme (.ofTheme theme) "a=/* b" none
  have mem : ⟨1, 4, ["source.rust", "keyword.operator.rust"]⟩ ∈
      ((BoundLanguage.mk l theme (.ofTheme theme)).grammar.tokens "a=/* b" none).1 := by
    rw [tokens_assigned_block found]
    simp
  exact ⟨known, l, found, mem, each _ mem rfl⟩

/-- An operator may hold a mark, and then no comment is opened. -/
theorem operator_holds_mark :
    let theme : Theme := ⟨"plain", none, none, []⟩
    ∃ l, Registry.builtin.language "rust" = .ok l ∧
      let answer := (BoundLanguage.mk l theme (.ofTheme theme)).grammar.tokens "a=/* b" none
      (∃ t ∈ answer.1, t.scopes.getLast? = some "keyword.operator.rust" ∧
        ∃ text, slice? "a=/* b" t.start t.stop = some text ∧ blockMark <:+: text.toList) ∧
        answer.2 = .normal := by
  intro theme
  have known : ("rust", "+-*/%&|^!<>=@") ∈ operatorSigns := List.mem_cons_self
  obtain ⟨l, found, -⟩ := exists_builtin_slashComments known
  refine ⟨l, found, ?_⟩
  rw [tokens_assigned_block found]
  exact ⟨⟨⟨1, 4, ["source.rust", "keyword.operator.rust"]⟩, by simp, rfl, "=/*", by decide, ['='],
    [], by decide⟩, rfl⟩

end Language

end Highlight
