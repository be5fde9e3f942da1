import Highlight.Language.Bound
import Highlight.Proofs.Style.Words
import Highlight.Proofs.Theme.Deciding
import Highlight.Proofs.Theme.Slots

/-!
# A packed word carries the look that the theme gives

What a theme gives to text is said by two relations on the scopes of the text, listed from the
innermost outwards. `Theme.ColorOf` walks to the first scope whose deciding rule sets a color with a
slot that a word has room for, and falls back to the text color; `Theme.StyleOf` walks to the first
scope that any rule decides. The two walks may end at different scopes.

Binding a language follows both walks (`exists_colorOf`, `styleOf_rulesOf`). The slots it packs have
room in a word, so unpacking gives them back, and the palette names the color that was meant
(`look_of_word`).
-/

namespace Highlight

namespace Theme

/-- The rule that decides the scope sets this foreground, and the theme's palette has it in a slot
that a packed word can name. -/
def Colors (theme : Theme) (scope color : String) : Prop :=
  ∃ hit slot, Decides theme.rules scope hit ∧ hit.rule.style.foreground = some color ∧
    (Palette.ofTheme theme).slot? color = some slot ∧ slot ≤ 511

/-- The color of text in the given scopes, innermost first. -/
inductive ColorOf (theme : Theme) : List String → String → Prop
  | here {scope color : String} {scopes : List String} (colors : theme.Colors scope color) :
      ColorOf theme (scope :: scopes) color
  | further {scope color : String} {scopes : List String}
      (colorless : ∀ other, ¬ theme.Colors scope other) (outer : ColorOf theme scopes color) :
      ColorOf theme (scope :: scopes) color
  | fallback : ColorOf theme [] theme.textColor

/-- The font style of text in the given scopes, innermost first. -/
inductive StyleOf (theme : Theme) : List String → FontStyle → Prop
  | here {scope : String} {scopes : List String} {hit : RuleHit}
      (decides : Decides theme.rules scope hit) :
      StyleOf theme (scope :: scopes) hit.rule.style.fontStyle
  | further {scope : String} {scopes : List String} {style : FontStyle}
      (undecided : ¬ Touches theme.rules scope) (outer : StyleOf theme scopes style) :
      StyleOf theme (scope :: scopes) style
  | fallback : StyleOf theme [] .plain

end Theme

/-- Every chain has an innermost scope. -/
theorem Language.exists_chain_eq_concat (l : Language) (o : Origin) :
    ∃ outer innermost, l.chain o = outer ++ [innermost] := by
  cases o with
  | gap => exact ⟨[], _, rfl⟩
  | pattern r => exact ⟨[_], _, rfl⟩
  | construct r => exact ⟨[_], _, rfl⟩

namespace BoundLanguage

variable (b : BoundLanguage)

theorem foregroundSlot?_eq_some_iff {r : Rule} {slot : Nat} :
    b.foregroundSlot? r = some slot ↔
      ∃ color,
        r.style.foreground = some color ∧ b.palette.slot? color = some slot ∧ slot ≤ 511 := by
  rw [foregroundSlot?, Option.filter_eq_some_iff, Option.bind_eq_some_iff]
  constructor
  · rintro ⟨⟨color, set, given⟩, room⟩
    exact ⟨color, set, given, of_decide_eq_true room⟩
  · rintro ⟨color, set, given, room⟩
    exact ⟨⟨color, set, given⟩, decide_eq_true room⟩

/-- The rules that decide some of the scopes, in the order of these. -/
def rulesOf (scopes : List String) : List Rule :=
  scopes.filterMap fun scope => (Theme.bestRule? b.theme.rules scope).map (·.rule)

theorem rulesOf_cons (scope : String) (scopes : List String) :
    b.rulesOf (scope :: scopes) =
      ((Theme.bestRule? b.theme.rules scope).map (·.rule)).toList ++ b.rulesOf scopes := by
  rw [rulesOf, List.filterMap_cons]
  cases Theme.bestRule? b.theme.rules scope <;> rfl

/-- The slot that is packed for the foreground is that of the color that the theme gives. -/
theorem exists_colorOf (own : b.palette = .ofTheme b.theme) (scopes : List String) :
    ∃ color, b.theme.ColorOf scopes color ∧ ∃ slot ≤ 511, b.palette.slot? color = some slot ∧
      ((b.rulesOf scopes).findSome? b.foregroundSlot?).getD
        ((b.palette.slot? b.theme.textColor).getD 1) = slot := by
  induction scopes with
  | nil =>
    obtain ⟨slot, low, given⟩ := Palette.exists_slot?_textColor b.theme
    rw [← own] at given
    exact ⟨_, .fallback, slot, by omega, given, by rw [given]; rfl⟩
  | cons scope scopes ih =>
    obtain ⟨color, colored, outer⟩ := ih
    rw [rulesOf_cons]
    cases decided : Theme.bestRule? b.theme.rules scope with
    | none =>
      refine ⟨color, .further ?_ colored, outer⟩
      rintro other ⟨hit, _, decides, _⟩
      exact Theme.bestRule?_eq_none_iff.mp decided decides.touches
    | some hit =>
      have decides := Theme.bestRule?_eq_some_iff.mp decided
      rw [Option.map_some, Option.toList_some, List.singleton_append, List.findSome?_cons]
      cases named : b.foregroundSlot? hit.rule with
      | some slot =>
        obtain ⟨color, set, given, room⟩ := b.foregroundSlot?_eq_some_iff.mp named
        exact ⟨color, .here ⟨hit, slot, decides, set, own ▸ given, room⟩, slot, room, given, rfl⟩
      | none =>
        refine ⟨color, .further ?_ colored, outer⟩
        rintro other ⟨hit', slot, decides', set, given, room⟩
        rw [decides'.unique decides] at set
        have found := b.foregroundSlot?_eq_some_iff.mpr ⟨other, set, own ▸ given, room⟩
        rw [named] at found
        cases found

/-- The font style that is packed is the one that the theme gives. -/
theorem styleOf_rulesOf (scopes : List String) :
    b.theme.StyleOf scopes (((b.rulesOf scopes).head?.map (·.style.fontStyle)).getD .plain) := by
  induction scopes with
  | nil => exact .fallback
  | cons scope scopes ih =>
    rw [rulesOf_cons]
    cases decided : Theme.bestRule? b.theme.rules scope with
    | none => exact .further (Theme.bestRule?_eq_none_iff.mp decided) ih
    | some hit => exact .here (Theme.bestRule?_eq_some_iff.mp decided)

/-- A field of nine bits has room for a slot. -/
theorem toNat_kept_slot {f : Field} {n slot : Nat} (spans : f.Spans n 9) (room : slot ≤ 511) :
    (f.kept (.ofNat slot)).toNat = slot := by
  rw [spans.toNat_kept, UInt32.toNat_ofNat']
  omega

/-- A packed slot names its color. -/
theorem color?_kept_slot (own : b.palette = .ofTheme b.theme) {f : Field} {n : Nat}
    (spans : f.Spans n 9) {color : String} {slot : Nat} (given : b.palette.slot? color = some slot)
    (room : slot ≤ 511) :
    b.palette.color? (f.kept (.ofNat slot)).toNat = some (upperColor color) := by
  rw [toNat_kept_slot spans room]
  rw [own] at given ⊢
  exact (Palette.slot?_eq_some_iff (Palette.consistent_ofTheme b.theme)).mp given

/-! ## The fields of a word -/

section Word

variable (o : Origin)

/-- A word unpacks to the look that was packed. -/
theorem unpack_word : Attributes.unpack (b.word o) =
    { b.attributes (b.language.chain o) with
      language := Field.language.kept (.ofNat b.language.number)
      foreground := Field.foreground.kept (b.attributes (b.language.chain o)).foreground
      background := Field.background.kept (b.attributes (b.language.chain o)).background } :=
  Attributes.unpack_pack _

theorem exists_colorOf_word (own : b.palette = .ofTheme b.theme) :
    ∃ color, b.theme.ColorOf (b.language.chain o).reverse color ∧
      b.palette.color? (Attributes.unpack (b.word o)).foreground.toNat =
        some (upperColor color) := by
  obtain ⟨color, colored, slot, room, given, packed⟩ :=
    b.exists_colorOf own (b.language.chain o).reverse
  have foreground : (b.attributes (b.language.chain o)).foreground = UInt32.ofNat slot := by
    rw [← packed]
    rfl
  refine ⟨color, colored, ?_⟩
  rw [unpack_word, foreground]
  exact b.color?_kept_slot own Field.spans_foreground given room

theorem styleOf_word :
    b.theme.StyleOf (b.language.chain o).reverse (Attributes.unpack (b.word o)).fontStyle := by
  rw [unpack_word]
  exact b.styleOf_rulesOf _

theorem color?_background_word (own : b.palette = .ofTheme b.theme) :
    b.palette.color? (Attributes.unpack (b.word o)).background.toNat =
      some (upperColor b.theme.pageColor) := by
  obtain ⟨slot, low, given⟩ := Palette.exists_slot?_pageColor b.theme
  rw [← own] at given
  have background : (b.attributes (b.language.chain o)).background = UInt32.ofNat slot := by
    simp only [attributes, given, Option.getD_some]
  rw [unpack_word, background]
  exact b.color?_kept_slot own Field.spans_background given (by omega)

theorem exists_tokenType_word : ∃ innermost, (b.language.chain o).reverse.head? = some innermost ∧
    (Attributes.unpack (b.word o)).tokenType = .ofScope innermost := by
  obtain ⟨outer, innermost, chain⟩ := b.language.exists_chain_eq_concat o
  rw [unpack_word]
  exact ⟨innermost, by simp [chain], by simp [attributes, chain]⟩

end Word

end BoundLanguage

/-- The word of any rule of a language, and that of its gaps, unpacks to what the theme gives to the
rule's scopes: the color, which is never missing, the font style, the page color behind it, and the
class of the innermost scope. -/
theorem BoundLanguage.look_of_word (language : Language) (theme : Theme) (o : Origin) :
    let b : BoundLanguage := ⟨language, theme, .ofTheme theme⟩
    let look := Attributes.unpack (b.word o)
    let scopes := (language.chain o).reverse
    (∃ color, theme.ColorOf scopes color ∧
      b.palette.color? look.foreground.toNat = some (upperColor color)) ∧
      theme.StyleOf scopes look.fontStyle ∧
      b.palette.color? look.background.toNat = some (upperColor theme.pageColor) ∧
      ∃ innermost, scopes.head? = some innermost ∧ look.tokenType = .ofScope innermost := by
  intro b look scopes
  have own : b.palette = .ofTheme theme := by simp only [b]
  exact ⟨b.exists_colorOf_word o own, b.styleOf_word o, b.color?_background_word o own,
    b.exists_tokenType_word o⟩

end Highlight
