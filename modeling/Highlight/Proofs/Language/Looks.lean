import Highlight.Proofs.Language.Coloring
import Highlight.Proofs.Theme.Folding
import Highlight.Token.Line

/-!
# Words stand for looks

A packed word names a color by its slot, and slots depend on all the colors that a theme mentions.
What a token looks like does not: its `look` is a class, a font style and a color, read off the
rules that decide its scopes. Where the palette is small enough that a word can name each of its
slots, words are names for looks: a word unpacks to its look (`token_word`), and two words are the
same exactly when the looks are (`word_eq_iff`).
-/

namespace Highlight

/-- What a token looks like. -/
@[ext]
structure Look where
  tokenType : TokenType
  fontStyle : FontStyle
  /-- In upper case. -/
  color : String

namespace BoundLanguage

/-- The color that the first of the rules to set one sets, or the text color. -/
def colorBy (b : BoundLanguage) (rules : List Rule) : String :=
  (rules.findSome? (·.style.foreground)).getD b.theme.textColor

/-- The look of a segment. -/
def look (b : BoundLanguage) (o : Origin) : Look where
  tokenType := .ofScope ((b.language.chain o).getLast?.getD "")
  fontStyle := ((b.decidingRules (b.language.chain o)).head?.map (·.style.fontStyle)).getD .plain
  color := upperColor (b.colorBy (b.decidingRules (b.language.chain o)))

/-! ## Looks are read off the essence of the rules -/

section Alike

variable {b b' : BoundLanguage} (alike : Theme.essence b.theme.rules = Theme.essence b'.theme.rules)
include alike

theorem decidingRules_folded_eq (chain : List String) :
    (b.decidingRules chain).map Rule.folded = (b'.decidingRules chain).map Rule.folded := by
  unfold decidingRules
  rw [List.map_filterMap, List.map_filterMap]
  congr 1
  funext scope
  rw [Option.map_map, Option.map_map]
  exact Theme.bestRule?_folded_eq alike scope

/-- The look of a segment is known from the essence of the rules and the text color, whatever the
palette is. -/
theorem look_eq (language : b.language = b'.language)
    (text : upperColor b.theme.textColor = upperColor b'.theme.textColor) (o : Origin) :
    b.look o = b'.look o := by
  have rules := decidingRules_folded_eq alike (b.language.chain o)
  unfold look colorBy
  rw [← language]
  apply Look.ext
  · rfl
  · have styles :=
      congrArg (fun rs => (rs.head?.map fun r : Rule => r.style.fontStyle).getD .plain) rules
    simp only [List.head?_map, Option.map_map] at styles
    exact styles
  · have colors := congrArg (List.findSome? fun r : Rule => r.style.foreground) rules
    rw [List.findSome?_map, List.findSome?_map] at colors
    dsimp only
    rw [← Option.getD_map upperColor, ← Option.getD_map upperColor, text, List.map_findSome?,
      List.map_findSome?]
    exact congrArg (Option.getD · _) colors

end Alike

/-! ## Words with room for every slot -/

theorem mem_of_mem_decidingRules {b : BoundLanguage} {chain : List String} {r : Rule}
    (mem : r ∈ b.decidingRules chain) : r ∈ b.theme.rules := by
  obtain ⟨scope, _, found⟩ := List.mem_filterMap.mp mem
  obtain ⟨hit, best, rfl⟩ := Option.map_eq_some_iff.mp found
  exact List.mem_of_getElem? (Theme.bestRule?_eq_some_iff.mp best).placed

theorem mentioned_of_foreground {theme : Theme} {r : Rule} {color : String} (mem : r ∈ theme.rules)
    (set : r.style.foreground = some color) : color ∈ Palette.mentioned theme := by
  have listed : color ∈ theme.rules.flatMap fun r =>
      r.style.foreground.toList ++ r.style.background.toList :=
    List.mem_flatMap.mpr ⟨r, mem, by simp [set]⟩
  exact List.mem_cons_of_mem _ (List.mem_cons_of_mem _ listed)

theorem word_eq (b : BoundLanguage) (o : Origin) :
    b.word o = Attributes.pack ⟨.ofNat b.language.number, (b.look o).tokenType,
      (b.look o).fontStyle, (b.attributes (b.language.chain o)).foreground,
      .ofNat ((b.palette.slot? b.theme.pageColor).getD 2)⟩ :=
  rfl

theorem tokenType_word (b : BoundLanguage) (o : Origin) :
    (Attributes.unpack (b.word o)).tokenType = (b.look o).tokenType := by
  rw [unpack_word]
  rfl

theorem fontStyle_word (b : BoundLanguage) (o : Origin) :
    (Attributes.unpack (b.word o)).fontStyle = (b.look o).fontStyle := by
  rw [unpack_word]
  rfl

section Room

variable {b : BoundLanguage} (own : b.palette = .ofTheme b.theme)
    (room : (Palette.ofTheme b.theme).size ≤ 512)
include own room

/-- A color that the theme mentions has a slot that a word can name. -/
theorem exists_slot_of_mentioned {color : String} (mem : color ∈ Palette.mentioned b.theme) :
    ∃ slot ≤ 511, b.palette.slot? color = some slot := by
  obtain ⟨slot, given⟩ := Palette.exists_slot?_of_mentioned mem
  have low := Palette.slot?_lt_size (Palette.consistent_ofTheme b.theme) given
  exact ⟨slot, by omega, own ▸ given⟩

/-- The slot that rules of the theme give to a foreground is that of the color that they give. -/
theorem exists_slot_colorBy (rules : List Rule) (known : ∀ r ∈ rules, r ∈ b.theme.rules) :
    ∃ slot ≤ 511, b.palette.slot? (b.colorBy rules) = some slot ∧
      (rules.findSome? b.foregroundSlot?).getD ((b.palette.slot? b.theme.textColor).getD 1) =
        slot := by
  induction rules with
  | nil =>
    have first : b.theme.textColor ∈ Palette.mentioned b.theme := List.mem_cons_self
    obtain ⟨slot, low, given⟩ := exists_slot_of_mentioned own room first
    exact ⟨slot, low, given, by simp [given]⟩
  | cons r rules ih =>
    rw [colorBy, List.findSome?_cons, List.findSome?_cons]
    cases set : r.style.foreground with
    | none =>
      have none : b.foregroundSlot? r = none := by simp [foregroundSlot?, set]
      rw [none]
      exact ih fun other mem => known other (List.mem_cons_of_mem _ mem)
    | some color =>
      have mem := mentioned_of_foreground (known r List.mem_cons_self) set
      obtain ⟨slot, low, given⟩ := exists_slot_of_mentioned own room mem
      rw [b.foregroundSlot?_eq_some_iff.mpr ⟨color, set, given, low⟩]
      exact ⟨slot, low, given, rfl⟩

/-- The foreground of a word is the slot of the color in its look. -/
theorem exists_slot_look (o : Origin) :
    ∃ slot ≤ 511, b.palette.slot? (b.colorBy (b.decidingRules (b.language.chain o))) = some slot ∧
      (b.attributes (b.language.chain o)).foreground = .ofNat slot := by
  obtain ⟨slot, low, given, packed⟩ :=
    exists_slot_colorBy own room (b.decidingRules (b.language.chain o)) fun _ mem =>
      mem_of_mem_decidingRules mem
  refine ⟨slot, low, given, ?_⟩
  rw [← packed]
  rfl

theorem color?_word (o : Origin) :
    b.palette.color? (Attributes.unpack (b.word o)).foreground.toNat = some (b.look o).color := by
  obtain ⟨slot, low, given, foreground⟩ := exists_slot_look own room o
  rw [unpack_word, foreground]
  exact b.color?_kept_slot own Field.spans_foreground given low

/-- A token with a word is a token in the look of the word. -/
theorem token_word (o : Origin) (content : String) (explanation : Option (List TokenNote)) :
    (⟨b.theme, b.palette⟩ : Painter).token content (b.word o) explanation =
      ⟨content, some (b.look o).color, (b.look o).fontStyle, explanation⟩ := by
  unfold Painter.token
  dsimp only
  rw [color?_word own room, fontStyle_word]

/-- Words are the same where looks are. -/
theorem word_eq_iff (o o' : Origin) : b.word o = b.word o' ↔ b.look o = b.look o' := by
  constructor
  · intro same
    apply Look.ext
    · rw [← tokenType_word, same, tokenType_word]
    · rw [← fontStyle_word, same, fontStyle_word]
    · apply Option.some.inj
      rw [← color?_word own room o, same, color?_word own room o']
  · intro same
    obtain ⟨slot, _, given, foreground⟩ := exists_slot_look own room o
    obtain ⟨slot', _, given', foreground'⟩ := exists_slot_look own room o'
    have slots : some slot = some slot' := by
      rw [← given, ← given']
      exact Palette.slot?_eq_of_upperColor (congrArg Look.color same)
    rw [word_eq, word_eq, same, foreground, foreground', Option.some.inj slots]

end Room

end BoundLanguage

end Highlight
