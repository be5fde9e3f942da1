import Highlight.Highlighter
import Highlight.Proofs.Language.Looks
import Highlight.Proofs.Session.Documents

/-!
# The numbering of a palette is invisible

The slots of a palette pass through a highlighter in packed words: they are compared when
neighbouring segments are merged, and read again when tokens are painted. `Renumbers` says of two
bindings of a language what both uses need: the words tell the same segments apart, and paint alike.
Then the packed answers for a line correspond pair by pair (`Renumbers.forall₂_wordPairs`), and the
tokens of the line are the same (`Renumbers.grammarTokens_eq`). The colors of spliced spans come
from the rules directly, and are the same because the rules say the same of scopes.

Taking away the rules that speak of no scope renumbers a palette, and where each slot has room in a
word the words still stand for the same looks (`renumbers_of_room`). Another letter case of colors
leaves the palette as it is (`renumbers_of_folded`).
-/

namespace Highlight

/-! ## Tokens of corresponding pairs -/

namespace Painter

variable {p p' : Painter}

theorem note_eq (alike : Theme.essence p.theme.rules = Theme.essence p'.theme.rules)
    (line : String) :
    p.note line = p'.note line := by
  funext t
  have shown :=
    congrArg (List.map fun e => (⟨e.1, e.2⟩ : ScopeNote)) (Theme.explain_labels_eq alike t.scopes)
  simp only [List.map_map] at shown
  unfold note
  congr 1

/-- Two pairs start at the same place, and their words paint alike. -/
structure PaintAlike (p p' : Painter) (pair pair' : Nat × UInt32) : Prop where
  start : pair.1 = pair'.1
  token : ∀ (content : String) (explanation : Option (List TokenNote)),
    p.token content pair.2 explanation = p'.token content pair'.2 explanation

theorem lineTokens_eq (alike : Theme.essence p.theme.rules = Theme.essence p'.theme.rules)
    (line : String) {pairs pairs' : List (Nat × UInt32)}
    (same : List.Forall₂ (PaintAlike p p') pairs pairs') (unexplained : Option (List ScopedToken)) :
    p.lineTokens line unexplained pairs = p'.lineTokens line unexplained pairs' := by
  induction same generalizing unexplained with
  | nil => rfl
  | @cons pair pair' pairs pairs' first later ih =>
    obtain ⟨start, word⟩ := pair
    obtain ⟨start', word'⟩ := pair'
    obtain rfl : start = start' := first.start
    have stops : pairs.head?.map (·.1) = pairs'.head?.map (·.1) := by
      cases later with
      | nil => rfl
      | cons next _ => exact congrArg some next.start
    have noted : p.notes line = p'.notes line := by
      funext ts
      rw [notes, notes, note_eq alike]
    rw [lineTokens, lineTokens, stops]
    dsimp only
    split
    next => exact ih unexplained
    next => rw [ih, noted, first.token]

end Painter

namespace BoundLanguage

/-- The painter with the theme and the palette of a bound language. -/
def painter (b : BoundLanguage) : Painter := ⟨b.theme, b.palette⟩

/-- Two bindings of a language whose words tell the same segments apart and paint alike. -/
structure Renumbers (b b' : BoundLanguage) : Prop where
  language : b.language = b'.language
  alike : Theme.essence b.theme.rules = Theme.essence b'.theme.rules
  words : ∀ o o', b.word o = b.word o' ↔ b'.word o = b'.word o'
  tokens : ∀ (o : Origin) (content : String) (explanation : Option (List TokenNote)),
    b.painter.token content (b.word o) explanation =
      b'.painter.token content (b'.word o) explanation

namespace Renumbers

variable {b b' : BoundLanguage}

/-- Packing merges the same segments, since a word repeats the one before it in both answers or in
neither. `last` is the origin of the segment before. -/
theorem forall₂_packFrom (same : Renumbers b b') (segments : List Segment) (last : Option Origin) :
    List.Forall₂ (Painter.PaintAlike b.painter b'.painter)
      (wordPairs (b.packFrom (last.map b.word) segments))
      (wordPairs (b'.packFrom (last.map b'.word) segments)) := by
  induction segments generalizing last with
  | nil => exact .nil
  | cons s segments ih =>
    have repeats : last.map b.word = some (b.word s.origin) ↔
        last.map b'.word = some (b'.word s.origin) := by
      cases last with
      | none => simp
      | some o => simpa using same.words o s.origin
    rw [packFrom, packFrom]
    by_cases again : last.map b.word = some (b.word s.origin)
    · rw [if_pos again, if_pos (repeats.mp again)]
      exact ih last
    · rw [if_neg again, if_neg (again ∘ repeats.mpr)]
      exact .cons ⟨rfl, same.tokens s.origin⟩ (ih (some s.origin))

theorem forall₂_wordPairs (same : Renumbers b b') (line : String) (prior : Option LineState) :
    List.Forall₂ (Painter.PaintAlike b.painter b'.painter)
      (wordPairs (b.grammar.words line prior).1)
      (wordPairs (b'.grammar.words line prior).1) := by
  show List.Forall₂ _ (wordPairs (b.packedWords (b.language.scan line (prior.getD .normal)).1))
    (wordPairs (b'.packedWords (b'.language.scan line (prior.getD .normal)).1))
  rw [← same.language]
  unfold packedWords
  split
  next => exact .cons ⟨rfl, same.tokens .gap⟩ .nil
  next => exact same.forall₂_packFrom _ none

theorem grammar_tokens_eq (same : Renumbers b b') : b.grammar.tokens = b'.grammar.tokens := by
  obtain ⟨l, t, p⟩ := b
  obtain ⟨l', t', p'⟩ := b'
  obtain rfl : l = l' := same.language
  rfl

/-- The tokens of a line are the same, and so is the state behind it. -/
theorem grammarTokens_eq (same : Renumbers b b') (explain : Bool) (line : String)
    (prior : Option LineState) :
    (Session.fresh b.painter explain).grammarTokens b.grammar line prior =
      (Session.fresh b'.painter explain).grammarTokens b'.grammar line prior := by
  have state : (b.grammar.words line prior).2 = (b'.grammar.words line prior).2 := by
    show (b.language.scan line (prior.getD .normal)).2 =
        (b'.language.scan line (prior.getD .normal)).2
    rw [same.language]
  have tokens := Painter.lineTokens_eq same.alike line (same.forall₂_wordPairs line prior)
  rw [Session.grammarTokens_eq, Session.grammarTokens_eq, same.grammar_tokens_eq]
  exact Prod.ext (tokens _) state

/-- The tokens of a document are the same. -/
theorem alone_eq (same : Renumbers b b') (explain : Bool) (text language : String)
    (analyzer : Option Analyzer) :
    Session.alone b.painter explain ⟨LineState, b.grammar, text, language, analyzer⟩ =
      Session.alone b'.painter explain ⟨LineState, b'.grammar, text, language, analyzer⟩ := by
  have lines :=
    (Session.ready_fresh b.painter explain).lines_eq_of_alike
      (Session.ready_fresh b'.painter explain)
    same.alike (same.grammarTokens_eq explain) none
  have found : Document.records ⟨LineState, b.grammar, text, language, analyzer⟩ =
      Document.records ⟨LineState, b'.grammar, text, language, analyzer⟩ := by
    simp only [Document.records]
  unfold Session.alone
  rw [Session.highlight_eq, Session.highlight_eq, found]
  cases Document.records ⟨LineState, b'.grammar, text, language, analyzer⟩ with
  | error failure => simp only [Except.map]
  | ok records => exact congrArg Except.ok (lines _)

end Renumbers

/-! ## Fewer rules -/

/-- Where every slot has room in a word, words stand for looks, however the slots are numbered. -/
theorem renumbers_of_room {b b' : BoundLanguage} (own : b.palette = .ofTheme b.theme)
    (own' : b'.palette = .ofTheme b'.theme) (room : (Palette.ofTheme b.theme).size ≤ 512)
    (room' : (Palette.ofTheme b'.theme).size ≤ 512) (language : b.language = b'.language)
    (alike : Theme.essence b.theme.rules = Theme.essence b'.theme.rules)
    (text : upperColor b.theme.textColor = upperColor b'.theme.textColor) : Renumbers b b' := by
  have looks := look_eq alike language text
  refine ⟨language, alike, ?_, ?_⟩
  · intro o o'
    rw [word_eq_iff own room, word_eq_iff own' room', looks, looks]
  · intro o content explanation
    rw [painter, painter, token_word own room, token_word own' room', looks]

theorem mentioned_withoutWhole (t : Theme) :
    Palette.mentioned t.withoutWhole ⊆ Palette.mentioned t := by
  apply List.cons_subset_cons
  apply List.cons_subset_cons
  intro color mem
  obtain ⟨r, speaks, set⟩ := List.mem_flatMap.mp mem
  exact List.mem_flatMap.mpr ⟨r, (List.mem_filter.mp speaks).1, set⟩

/-! ## Another letter case -/

section Folded

variable {t t' : Theme} (same : t.folded = t'.folded)
include same

theorem upper_textColor_eq : upperColor t.textColor = upperColor t'.textColor := by
  have foreground : t.foreground.map upperColor = t'.foreground.map upperColor :=
    congrArg Theme.foreground same
  rw [Theme.textColor, Theme.textColor, ← Option.getD_map upperColor, ← Option.getD_map upperColor,
    foreground]

theorem upper_pageColor_eq : upperColor t.pageColor = upperColor t'.pageColor := by
  have background : t.background.map upperColor = t'.background.map upperColor :=
    congrArg Theme.background same
  rw [Theme.pageColor, Theme.pageColor, ← Option.getD_map upperColor, ← Option.getD_map upperColor,
    background]

theorem palette_eq_of_folded : Palette.ofTheme t = Palette.ofTheme t' := by
  apply Palette.ofTheme_eq_of_upperColor
  have rules : t.rules.map Rule.folded = t'.rules.map Rule.folded := congrArg Theme.rules same
  have set (rules : List Rule) :
      (rules.flatMap fun r =>
        r.style.foreground.toList ++ r.style.background.toList).map upperColor =
      (rules.map Rule.folded).flatMap fun r =>
        r.style.foreground.toList ++ r.style.background.toList := by
    rw [List.map_flatMap, List.flatMap_map]
    congr 1
    funext r
    rw [List.map_append, ← Option.toList_map, ← Option.toList_map]
    rfl
  simp only [Palette.mentioned, List.map_cons, upper_textColor_eq same, upper_pageColor_eq same,
    set, rules]

end Folded

/-- The slot of a rule's foreground is found with the color in upper case. -/
theorem foregroundSlot?_eq (b : BoundLanguage) : b.foregroundSlot? =
    (fun r => (r.style.foreground.bind fun key => b.palette.slots.lookup key).filter
      (· ≤ Attributes.maxSlot)) ∘ Rule.folded := by
  funext r
  show _ = ((r.style.foreground.map upperColor).bind _).filter _
  rw [Option.bind_map]
  rfl

section SamePalette

variable {b b' : BoundLanguage} (language : b.language = b'.language)
    (palette : b.palette = b'.palette)
  (same : b.theme.folded = b'.theme.folded)

include palette same in
theorem foreground_eq_of_folded (chain : List String) :
    (b.attributes chain).foreground = (b'.attributes chain).foreground := by
  have rules := decidingRules_folded_eq (Theme.essence_eq_of_folded same) chain
  have text := Palette.slot?_eq_of_upperColor (p := b'.palette) (upper_textColor_eq same)
  unfold attributes
  dsimp only
  rw [palette, text, foregroundSlot?_eq, foregroundSlot?_eq, palette, ← List.findSome?_map,
    ← List.findSome?_map, rules]

include language palette same

/-- With colors in another letter case, words are the same. -/
theorem word_eq_of_folded (o : Origin) : b.word o = b'.word o := by
  have looks := look_eq (Theme.essence_eq_of_folded same) language (upper_textColor_eq same) o
  have page := Palette.slot?_eq_of_upperColor (p := b'.palette) (upper_pageColor_eq same)
  rw [word_eq, word_eq, looks, foreground_eq_of_folded palette same, language, palette, page]

theorem renumbers_of_folded : Renumbers b b' := by
  have words := word_eq_of_folded language palette same
  refine ⟨language, Theme.essence_eq_of_folded same, ?_, ?_⟩
  · intro o o'
    rw [words, words]
  · intro o content explanation
    unfold Painter.token painter
    rw [words, palette]

end SamePalette

end BoundLanguage

/-! ## Highlighters -/

namespace Highlighter

/-- A text is highlighted in a fresh session, by the grammar of its language bound to the theme. -/
theorem tokens_eq (h : Highlighter) (text language : String) (analyzer : Option Analyzer) :
    h.tokens text language analyzer = (h.registry.language language).bind fun l =>
      let b : BoundLanguage := ⟨l, h.theme, .ofTheme h.theme⟩
      Session.alone b.painter h.explain ⟨LineState, b.grammar, text, language, analyzer⟩ := by
  unfold tokens
  dsimp only [Session.ofTheme, Painter.ofTheme, Session.alone, Session.fresh, BoundLanguage.painter,
    bind, pure, Except.pure]
  congr 1

/-- Themes whose bindings of every language paint alike have the same tokens. -/
theorem tokens_eq_of_renumbers (h : Highlighter) {theme : Theme}
    (same : ∀ l, BoundLanguage.Renumbers ⟨l, h.theme, .ofTheme h.theme⟩ ⟨l, theme, .ofTheme theme⟩)
    (text language : String) (analyzer : Option Analyzer) :
    h.tokens text language analyzer = { h with theme }.tokens text language analyzer := by
  rw [tokens_eq, tokens_eq]
  exact congrArg (Except.bind _)
    (funext fun l => (same l).alone_eq h.explain text language analyzer)

/-- Whatever the languages, the text, the options and the analyzer are: the tokens of a text do not
depend on how the palette numbers its colors. Where a word has room for every slot, the rules that
speak of no scope may be left out, and colors may always be written in another letter case. -/
theorem tokens_numbering_invisible (h : Highlighter) (text language : String)
    (analyzer : Option Analyzer) :
    ((Palette.ofTheme h.theme).size ≤ 512 →
      h.tokens text language analyzer =
        { h with theme := h.theme.withoutWhole }.tokens text language analyzer) ∧
    ∀ theme : Theme, h.theme.folded = theme.folded →
      h.tokens text language analyzer = { h with theme }.tokens text language analyzer := by
  refine ⟨?_, ?_⟩
  · intro room
    have room' : (Palette.ofTheme h.theme.withoutWhole).size ≤ 512 :=
      Nat.le_trans (Palette.size_ofTheme_le (BoundLanguage.mentioned_withoutWhole h.theme)) room
    apply h.tokens_eq_of_renumbers
    intro l
    have alike := h.theme.essence_withoutWhole.symm
    exact BoundLanguage.renumbers_of_room (by simp only) (by simp only) room room' rfl alike rfl
  · intro theme same
    apply h.tokens_eq_of_renumbers
    intro l
    exact BoundLanguage.renumbers_of_folded rfl
      (by simp only [BoundLanguage.palette_eq_of_folded same]) same

/-- A rule for the whole theme takes the slot that the color of numbers has without it. The text has
numbers, and the analyzer finds one more. -/
theorem tokens_numbering_invisible_shifted :
    let number : PatternRule :=
      ⟨"number", Pattern.regex (.many (.set .digit) ⟨1, none, true⟩), .number, 5⟩
    let colored (color : String) : Theme :=
      ⟨"plain", some "#abc", none,
        [⟨none, .whole, ⟨some "#123", none, {}⟩⟩, ⟨none, ⟨["constant"]⟩, ⟨some color, none, {}⟩⟩]⟩
    let l : Language := { Language.new "t" "T" "t" with patterns := [number] }
    let h : Highlighter := ⟨colored "#0f0", Registry.empty.add l, true, none⟩
    let analyzer : Option Analyzer := some (.fixed [⟨0, ⟨0, 1, ["constant"]⟩⟩])
    (h.registry.language? "T").isSome ∧
      (Palette.ofTheme h.theme).slot? "#0f0" = some 4 ∧
      (Palette.ofTheme h.theme.withoutWhole).slot? "#0f0" = some 3 ∧
      h.tokens "a1 22" "T" analyzer =
        { h with theme := h.theme.withoutWhole }.tokens "a1 22" "T" analyzer ∧
      colored "#0f0" ≠ colored "#0F0" ∧
      h.tokens "a1 22" "T" analyzer =
        { h with theme := colored "#0F0" }.tokens "a1 22" "T" analyzer := by
  intro number colored l h analyzer
  have invisible := tokens_numbering_invisible h "a1 22" "T" analyzer
  have room : (Palette.ofTheme h.theme).size ≤ 512 := by decide +kernel
  have cased : h.theme.folded = (colored "#0F0").folded := by decide
  exact ⟨by decide +kernel, by decide +kernel, by decide +kernel, invisible.1 room, by decide,
    invisible.2 _ cased⟩

end Highlighter

end Highlight
