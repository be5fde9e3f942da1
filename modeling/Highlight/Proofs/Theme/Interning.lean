import Highlight.Proofs.Theme.Slots
import Mathlib.Algebra.Ring.Nat
import Mathlib.Data.Finset.Card

/-!
# What a palette knows after any history

A palette is asked in two directions, each answered from a store of its own: for the slot of a color
and for the color of a slot. After every history of interned colors the two stores are consistent
(`consistent_after`), so the answers are inverse to each other. A palette only grows at its end, so
no slot changes its color, and it holds the interned colors and nothing else, so its size counts the
colors that differ in more than the case of ASCII letters (`size_after`).

The reserved slot has no color, not even the empty one that it holds: the empty text is a color like
any other, with a slot of its own.
-/

namespace Highlight

/-! ## Letter case -/

/-- The colors differ at most in the case of ASCII letters. -/
def SameButCase (color color' : String) : Prop :=
  color.toList.map Char.toLower = color'.toList.map Char.toLower

theorem toNat_toUpper (c : Char) :
    c.toUpper.toNat = if 97 ≤ c.toNat ∧ c.toNat ≤ 122 then c.toNat - 32 else c.toNat := by
  have letter : ('a'.val ≤ c.val ∧ c.val ≤ 'z'.val) ↔ 97 ≤ c.toNat ∧ c.toNat ≤ 122 := Iff.rfl
  unfold Char.toUpper
  split
  next small =>
    rw [if_pos (letter.mp small)]
    show (c.val + ('A'.val - 'a'.val)).toNat = c.val.toNat - 32
    have low := (letter.mp small).1
    have high := (letter.mp small).2
    rw [UInt32.toNat_add]
    simp only [Char.toNat] at low high
    have : ('A'.val - 'a'.val).toNat = 4294967264 := rfl
    omega
  next other => rw [if_neg (mt letter.mpr other)]

theorem toNat_toLower (c : Char) :
    c.toLower.toNat = if 65 ≤ c.toNat ∧ c.toNat ≤ 90 then c.toNat + 32 else c.toNat := by
  have letter : (c.val ≥ 'A'.val ∧ c.val ≤ 'Z'.val) ↔ 65 ≤ c.toNat ∧ c.toNat ≤ 90 := Iff.rfl
  unfold Char.toLower
  split
  next large =>
    rw [if_pos (letter.mp large)]
    show (c.val + ('a'.val - 'A'.val)).toNat = c.val.toNat + 32
    have high := (letter.mp large).2
    rw [UInt32.toNat_add]
    simp only [Char.toNat] at high
    have : ('a'.val - 'A'.val).toNat = 32 := rfl
    omega
  next other => rw [if_neg (mt letter.mpr other)]

/-- Both cases tell the same characters apart. -/
theorem toUpper_eq_iff_toLower_eq {c d : Char} : c.toUpper = d.toUpper ↔ c.toLower = d.toLower := by
  rw [← Char.toNat_inj, ← Char.toNat_inj, toNat_toUpper, toNat_toUpper, toNat_toLower,
    toNat_toLower]
  split <;> split <;> split <;> split <;> omega

theorem map_toUpper_eq_iff {cs ds : List Char} :
    cs.map Char.toUpper = ds.map Char.toUpper ↔ cs.map Char.toLower = ds.map Char.toLower := by
  induction cs generalizing ds with
  | nil => simp
  | cons c cs ih =>
    cases ds with
    | nil => simp
    | cons d ds => simp only [List.map_cons, List.cons.injEq, toUpper_eq_iff_toLower_eq, ih]

theorem upperColor_eq_iff {color color' : String} :
    upperColor color = upperColor color' ↔ SameButCase color color' := by
  rw [upperColor, upperColor, String.ofList_inj, SameButCase, map_toUpper_eq_iff]

/-! ## Histories -/

namespace Palette

/-- The palette after colors are interned in order. -/
def after (past : List String) : Palette := past.foldl insert empty

section History

variable {p q : Palette} {past : List String} {color : String} {i : Nat}

theorem after_append (past later : List String) :
    after (past ++ later) = later.foldl insert (after past) :=
  List.foldl_append

theorem isPrefix_after (past later : List String) :
    (after past).colors <+: (after (past ++ later)).colors := by
  rw [after_append]
  exact isPrefix_foldl_insert later (after past)

theorem consistent_after (past : List String) : (after past).Consistent :=
  consistent_empty.foldl_insert past

theorem mem_named_after {x : String} : x ∈ (after past).named ↔ x ∈ past.map upperColor := by
  rw [after, mem_named_foldl_insert consistent_empty]
  simp [named, empty]

/-- A palette has one slot for each color that was interned, and the reserved one. -/
theorem size_after (past : List String) :
    (after past).size = 1 + (past.map upperColor).toFinset.card := by
  have same : (past.map upperColor).toFinset = (after past).named.toFinset := by
    ext x
    rw [List.mem_toFinset, List.mem_toFinset, mem_named_after]
  have consistent := consistent_after past
  rw [same, List.toFinset_card_of_nodup (nodup_named consistent), consistent.size_eq, Nat.add_comm]

/-- A color that was interned before has the slot that was given out then. -/
theorem slot?_after_of_earlier (front back : List String) {earlier : String}
    (same : SameButCase color earlier) :
    (after (front ++ earlier :: back)).slot? color = some ((after front).intern earlier).2 := by
  have grows : ((after front).insert earlier).colors <+:
      (after (front ++ earlier :: back)).colors := by
    rw [after_append]
    exact isPrefix_foldl_insert back _
  rw [slot?_eq_of_upperColor (upperColor_eq_iff.mpr same)]
  exact slot?_of_isPrefix ((consistent_after front).insert earlier) (consistent_after _) grows
    (slot?_insert _ _)

end History

/-- What a palette answers after colors are interned. -/
structure Interned (past : List String) (p : Palette) : Prop where
  /-- The two stores say the same. -/
  consistent : p.Consistent
  /-- Interning a color gives out a slot, and from then on the slot has that color. -/
  named : ∀ color, (p.intern color).1 = after (past ++ [color]) ∧ 1 ≤ (p.intern color).2 ∧
    (p.intern color).1.color? (p.intern color).2 = some (upperColor color)
  /-- A color has a slot exactly where the slot has that color. -/
  inverse : ∀ i color, p.slot? color = some i ↔ p.color? i = some (upperColor color)
  /-- Whatever is interned later, a slot keeps its color. -/
  kept : ∀ later i color, p.color? i = some color → (after (past ++ later)).color? i = some color
  /-- A color that was interned before, in whatever case, gets the slot that was given out then, and
  nothing changes. -/
  again : ∀ front earlier back color, past = front ++ earlier :: back → SameButCase color earlier →
    p.intern color = (p, ((after front).intern earlier).2)
  /-- The reserved slot has no color. -/
  reserved : p.color? 0 = none
  /-- Colors that differ in more than their case have slots of their own, and there is no other
  slot. -/
  counted : p.size = 1 + (past.map upperColor).toFinset.card
  /-- As long as there are few enough colors, slots have room in 32 bits. -/
  room : (past.map upperColor).toFinset.card < 2 ^ 32 - 1 → ∀ color, (p.intern color).2 < 2 ^ 32

/-- After every history a palette answers as the history says. -/
theorem after_interned (past : List String) : (after past).Interned past where
  consistent := consistent_after past
  named color := by
    have grown : ((after past).intern color).1 = after (past ++ [color]) :=
      (after_append past [color]).symm
    have consistent := (consistent_after past).insert color
    have given := (slot?_eq_some_iff consistent).mp (slot?_insert (after past) color)
    exact ⟨grown, Nat.pos_of_ne_zero (color?_eq_some_iff.mp given).1, given⟩
  inverse i color := slot?_eq_some_iff (consistent_after past)
  kept later i color := color?_of_isPrefix (isPrefix_after past later)
  again front earlier back color history same := by
    subst history
    exact intern_of_slot? (slot?_after_of_earlier front back same)
  reserved := rfl
  counted := size_after past
  room few color := by
    have low := intern_le_size (consistent_after past) color
    rw [size_after] at low
    omega

example : (after ["", "#abc", "#ABC"]).slot? "" = some 1 := by decide +kernel

end Palette

end Highlight
