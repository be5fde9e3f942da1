import Highlight.Theme.Palette
import Mathlib.Data.List.Nodup
import Mathlib.Data.List.Perm.Subperm

/-!
# Palette slots name their colors for good

A palette has two stores, and `Consistent` says how they belong together: the reserved slot stands
first, and behind it every color has the slot that holds it. Taking in a color keeps this
(`Consistent.insert`), so it holds of every palette that is built up from the empty one. Hence a
color has a slot exactly where the slot has that color (`slot?_eq_some_iff`), and no color has two
slots (`nodup_named`).

Colors that come later change no slot, since a palette only grows at its end (`slot?_of_isPrefix`).
The palette of a theme starts with the text color and the page color, so these two have slots at the
very beginning, whatever rules follow. It holds each color that the theme mentions once, in upper
case (`mem_named_ofTheme`), so it is no larger than that of a theme that mentions more.
-/

namespace Highlight.Palette

variable {p q : Palette} {color : String} {i : Nat}

/-! ## The two stores -/

/-- The two stores of a palette say the same. -/
structure Consistent (p : Palette) : Prop where
  /-- The reserved slot is there, and holds the empty text. -/
  reserved : p.colors.head? = some ""
  /-- A color has the slot that holds it, unless that is the reserved one. -/
  inverse : ∀ key i, p.slots.lookup key = some i ↔ i ≠ 0 ∧ p.colors[i]? = some key

/-- The colors behind the reserved slot. -/
def named (p : Palette) : List String := p.colors.tail

theorem color?_succ (p : Palette) (i : Nat) : p.color? (i + 1) = p.named[i]? :=
  List.getElem?_tail.symm

theorem color?_eq_some_iff : p.color? i = some color ↔ i ≠ 0 ∧ p.colors[i]? = some color := by
  cases i with
  | zero => simp [color?]
  | succ i => simp [color?]

theorem intern_of_slot? (found : p.slot? color = some i) : p.intern color = (p, i) := by
  rw [intern, found]

theorem intern_of_new (new : p.slot? color = none) : p.intern color =
    (⟨p.colors ++ [upperColor color], (upperColor color, p.size) :: p.slots⟩, p.size) := by
  rw [intern, new]
  rfl

/-- Interning a color gives out the slot that the color has from then on. -/
theorem slot?_insert (p : Palette) (color : String) :
    (p.insert color).slot? color = some (p.intern color).2 := by
  rw [insert]
  cases known : p.slot? color with
  | some i =>
    rw [intern_of_slot? known]
    exact known
  | none =>
    rw [intern_of_new known]
    exact List.lookup_cons_self

namespace Consistent

theorem colors_eq (consistent : p.Consistent) : p.colors = "" :: p.named :=
  (List.cons_head?_tail (by rw [consistent.reserved]; rfl)).symm

theorem size_eq (consistent : p.Consistent) : p.size = p.named.length + 1 := by
  rw [size, consistent.colors_eq, List.length_cons]

theorem size_pos (consistent : p.Consistent) : 0 < p.size := by
  rw [consistent.size_eq]
  exact Nat.succ_pos _

/-- A new color takes the next slot, which no color had. -/
theorem push (consistent : p.Consistent) {key : String} (new : p.slots.lookup key = none) :
    Consistent ⟨p.colors ++ [key], (key, p.size) :: p.slots⟩ where
  reserved := by
    rw [consistent.colors_eq]
    rfl
  inverse other i := by
    by_cases same : other = key
    · subst same
      rw [List.lookup_cons_self, Option.some.injEq]
      constructor
      · rintro rfl
        exact ⟨Nat.ne_of_gt consistent.size_pos, List.getElem?_concat_length⟩
      · rintro ⟨nonzero, held⟩
        rcases Nat.lt_trichotomy i p.size with low | here | high
        · -- an earlier slot with this color would have been found
          rw [List.getElem?_append_left low] at held
          rw [(consistent.inverse other i).mpr ⟨nonzero, held⟩] at new
          cases new
        · exact here.symm
        · rw [List.getElem?_eq_none (by rw [List.length_append]; exact high)] at held
          cases held
    · have kept : (p.colors ++ [key])[i]? = some other ↔ p.colors[i]? = some other := by
        rcases Nat.lt_or_ge i p.colors.length with low | high
        · rw [List.getElem?_append_left low]
        · rw [List.getElem?_append_right high, List.getElem?_eq_none high]
          simp [List.getElem?_singleton, Ne.symm same]
      rw [List.lookup_cons, beq_false_of_ne same, consistent.inverse, kept]

theorem insert (consistent : p.Consistent) (color : String) : (p.insert color).Consistent := by
  rw [Palette.insert]
  cases known : p.slot? color with
  | some i =>
    rw [intern_of_slot? known]
    exact consistent
  | none =>
    rw [intern_of_new known]
    exact consistent.push known

theorem foldl_insert (consistent : p.Consistent) (colors : List String) :
    (colors.foldl Palette.insert p).Consistent := by
  induction colors generalizing p with
  | nil => exact consistent
  | cons color colors ih => exact ih (consistent.insert color)

end Consistent

theorem consistent_empty : empty.Consistent where
  reserved := rfl
  inverse key i := by
    cases i <;> simp [empty]

/-- A color has a slot exactly where the slot has that color. -/
theorem slot?_eq_some_iff (consistent : p.Consistent) :
    p.slot? color = some i ↔ p.color? i = some (upperColor color) := by
  rw [slot?, consistent.inverse, color?_eq_some_iff]

theorem isSome_slot?_iff (consistent : p.Consistent) :
    (p.slot? color).isSome ↔ upperColor color ∈ p.named := by
  rw [Option.isSome_iff_exists, List.mem_iff_getElem?]
  constructor
  · rintro ⟨i, found⟩
    have named := (slot?_eq_some_iff consistent).mp found
    cases i with
    | zero => cases named
    | succ i => exact ⟨i, (p.color?_succ i).symm.trans named⟩
  · rintro ⟨i, named⟩
    exact ⟨i + 1, (slot?_eq_some_iff consistent).mpr ((p.color?_succ i).trans named)⟩

/-- No color has two slots. -/
theorem nodup_named (consistent : p.Consistent) : p.named.Nodup := by
  have slot (i : Fin p.named.length) : p.slots.lookup p.named[i] = some (i.1 + 1) :=
    (consistent.inverse _ _).mpr
      ⟨Nat.succ_ne_zero _, (p.color?_succ i).trans (List.getElem?_eq_getElem i.2)⟩
  refine List.nodup_iff_injective_getElem.mpr fun i j same => Fin.ext ?_
  have equal := slot i
  rw [show p.named[i] = p.named[j] from same, slot j] at equal
  exact (Nat.succ.inj (Option.some.inj equal)).symm

theorem slot?_lt_size (consistent : p.Consistent) (found : p.slot? color = some i) :
    i < p.size := by
  obtain ⟨-, held⟩ := (consistent.inverse _ _).mp found
  exact (List.getElem?_eq_some_iff.mp held).1

/-! ## Growth -/

theorem colors_insert (p : Palette) (color : String) : (p.insert color).colors =
    if (p.slot? color).isSome then p.colors else p.colors ++ [upperColor color] := by
  unfold insert intern
  cases p.slot? color <;> rfl

theorem isPrefix_insert (p : Palette) (color : String) : p.colors <+: (p.insert color).colors := by
  rw [colors_insert]
  split
  · exact List.prefix_refl _
  · exact List.prefix_append _ _

theorem isPrefix_foldl_insert (colors : List String) (p : Palette) :
    p.colors <+: (colors.foldl insert p).colors := by
  induction colors generalizing p with
  | nil => exact List.prefix_refl _
  | cons color colors ih => exact (p.isPrefix_insert color).trans (ih (p.insert color))

/-- A slot that has a color keeps it when colors are added behind. -/
theorem color?_of_isPrefix (grows : p.colors <+: q.colors) (held : p.color? i = some color) :
    q.color? i = some color := by
  rw [color?_eq_some_iff] at held ⊢
  obtain ⟨added, colors⟩ := grows
  obtain ⟨inside, -⟩ := List.getElem?_eq_some_iff.mp held.2
  rw [← colors, List.getElem?_append_left inside]
  exact held

/-- A slot that is given stays when colors are added behind. -/
theorem slot?_of_isPrefix (before : p.Consistent) (behind : q.Consistent)
    (grows : p.colors <+: q.colors) (found : p.slot? color = some i) : q.slot? color = some i := by
  rw [slot?_eq_some_iff behind]
  exact color?_of_isPrefix grows ((slot?_eq_some_iff before).mp found)

/-- The slot that is given out is one that is there, or the first free one. -/
theorem intern_le_size (consistent : p.Consistent) (color : String) :
    (p.intern color).2 ≤ p.size := by
  cases known : p.slot? color with
  | some i =>
    rw [intern_of_slot? known]
    exact Nat.le_of_lt (slot?_lt_size consistent known)
  | none => exact Nat.le_of_eq (congrArg Prod.snd (intern_of_new known))

/-- An inserted color has a slot: the one it had, or the first free one. -/
theorem exists_slot?_insert (consistent : p.Consistent) (color : String) :
    ∃ i ≤ p.size, (p.insert color).slot? color = some i :=
  ⟨_, intern_le_size consistent color, p.slot?_insert color⟩

theorem size_insert_le (p : Palette) (color : String) : (p.insert color).size ≤ p.size + 1 := by
  rw [size, size, colors_insert]
  split <;> simp

theorem named_insert (consistent : p.Consistent) (color : String) : (p.insert color).named =
    if upperColor color ∈ p.named then p.named else p.named ++ [upperColor color] := by
  rw [named, colors_insert]
  simp only [isSome_slot?_iff consistent]
  split
  next => rfl
  next =>
    rw [consistent.colors_eq]
    rfl

theorem mem_named_insert (consistent : p.Consistent) {x : String} :
    x ∈ (p.insert color).named ↔ x = upperColor color ∨ x ∈ p.named := by
  rw [named_insert consistent]
  split
  next known => exact ⟨.inr, fun either => either.elim (· ▸ known) id⟩
  next => simp [or_comm]

theorem mem_named_foldl_insert (consistent : p.Consistent) {x : String} (colors : List String) :
    x ∈ (colors.foldl insert p).named ↔ x ∈ colors.map upperColor ∨ x ∈ p.named := by
  induction colors generalizing p with
  | nil => simp
  | cons color colors ih =>
    rw [List.foldl_cons, ih (consistent.insert color), mem_named_insert consistent, List.map_cons,
      List.mem_cons]
    tauto

/-! ## The colors of a theme -/

theorem consistent_ofTheme (theme : Theme) : (ofTheme theme).Consistent :=
  consistent_empty.foldl_insert (mentioned theme)

/-- The palette of a theme starts with the text color and the page color. -/
theorem isPrefix_ofTheme (theme : Theme) :
    ((empty.insert theme.textColor).insert theme.pageColor).colors <+: (ofTheme theme).colors := by
  rw [ofTheme, mentioned, List.foldl_cons, List.foldl_cons]
  exact isPrefix_foldl_insert _ _

/-- The text color has the first slot of a theme's palette. -/
theorem exists_slot?_textColor (theme : Theme) :
    ∃ i ≤ 1, (ofTheme theme).slot? theme.textColor = some i := by
  obtain ⟨i, low, given⟩ := exists_slot?_insert consistent_empty theme.textColor
  have grows := (isPrefix_insert _ theme.pageColor).trans (isPrefix_ofTheme theme)
  exact ⟨i, low,
    slot?_of_isPrefix (consistent_empty.insert _) (consistent_ofTheme theme) grows given⟩

/-- The page color has the second slot, or shares the first. -/
theorem exists_slot?_pageColor (theme : Theme) :
    ∃ i ≤ 2, (ofTheme theme).slot? theme.pageColor = some i := by
  have consistent := consistent_empty.insert theme.textColor
  obtain ⟨i, low, given⟩ := exists_slot?_insert consistent theme.pageColor
  refine ⟨i, Nat.le_trans low (empty.size_insert_le theme.textColor), ?_⟩
  exact slot?_of_isPrefix (consistent.insert _) (consistent_ofTheme theme)
    (isPrefix_ofTheme theme) given

/-- A theme's palette holds the colors that the theme mentions, in upper case. -/
theorem mem_named_ofTheme {theme : Theme} {x : String} :
    x ∈ (ofTheme theme).named ↔ x ∈ (mentioned theme).map upperColor := by
  rw [ofTheme, mem_named_foldl_insert consistent_empty]
  simp [named, empty]

theorem exists_slot?_of_mentioned {theme : Theme} (mem : color ∈ mentioned theme) :
    ∃ i, (ofTheme theme).slot? color = some i :=
  Option.isSome_iff_exists.mp ((isSome_slot?_iff (consistent_ofTheme theme)).mpr
    (mem_named_ofTheme.mpr (List.mem_map_of_mem mem)))

/-- A theme that mentions fewer colors has no larger palette. -/
theorem size_ofTheme_le {theme theme' : Theme} (fewer : mentioned theme ⊆ mentioned theme') :
    (ofTheme theme).size ≤ (ofTheme theme').size := by
  have inside : (ofTheme theme).named ⊆ (ofTheme theme').named := by
    intro x mem
    rw [mem_named_ofTheme] at mem ⊢
    exact List.map_subset upperColor fewer mem
  have nodup := nodup_named (consistent_ofTheme theme)
  rw [(consistent_ofTheme theme).size_eq, (consistent_ofTheme theme').size_eq]
  exact Nat.succ_le_succ (nodup.subperm inside).length_le

theorem slot?_eq_of_upperColor {color' : String} (same : upperColor color = upperColor color') :
    p.slot? color = p.slot? color' := by
  rw [slot?, slot?, same]

theorem insert_eq_of_upperColor {color' : String} (same : upperColor color = upperColor color') :
    p.insert color = p.insert color' := by
  unfold insert intern
  rw [slot?_eq_of_upperColor same, same]

/-- Letter case makes no difference to a palette. -/
theorem ofTheme_eq_of_upperColor {theme theme' : Theme}
    (same : (mentioned theme).map upperColor = (mentioned theme').map upperColor) :
    ofTheme theme = ofTheme theme' := by
  have all (colors colors' : List String) (p : Palette)
      (same : colors.map upperColor = colors'.map upperColor) :
      colors.foldl insert p = colors'.foldl insert p := by
    induction colors generalizing colors' p with
    | nil =>
      have none : colors' = [] := List.map_eq_nil_iff.mp same.symm
      rw [none]
    | cons color colors ih =>
      obtain ⟨color', rest, rfl, first, later⟩ := List.map_eq_cons_iff.mp same.symm
      rw [List.foldl_cons, List.foldl_cons, insert_eq_of_upperColor first.symm]
      exact ih rest _ later.symm
  exact all _ _ _ same

end Highlight.Palette
