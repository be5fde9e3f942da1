import Highlight.Proofs.Theme.Interning

/-!
# How the palette of a theme is laid out

The text color has slot 1 and the page color slot 2, and behind them stand the colors of the rules
that are neither, each once and in the order in which the rules first mention them. One thing
disturbs this: a palette holds no color twice. Where the page color is the text color, be it in
another case, the two share slot 1, and the colors of the rules start at slot 2 already
(`ofTheme_laidOut`). This takes no odd theme: the text color is black unless a theme sets it, so it
is enough that a theme sets a black page and nothing else (`second_slot_not_page`).

The order comes from `named_foldl_insert`: a palette that takes in colors grows by those that it
does not have, without repetitions.
-/

namespace Highlight

instance (color color' : String) : Decidable (SameButCase color color') :=
  inferInstanceAs (Decidable (color.toList.map Char.toLower = color'.toList.map Char.toLower))

namespace Palette

/-! ## Growth in order -/

/-- A palette grows by the colors that it does not have, in the order in which they first come. -/
theorem named_foldl_insert {p : Palette} (consistent : p.Consistent) (colors : List String) :
    (colors.foldl insert p).named =
      p.named ++ ((colors.map upperColor).filter fun color => color ∉ p.named).eraseDups := by
  induction colors generalizing p with
  | nil => simp
  | cons color colors ih =>
    rw [List.foldl_cons, ih (consistent.insert color), named_insert consistent, List.map_cons]
    by_cases known : upperColor color ∈ p.named
    · rw [if_pos known, List.filter_cons_of_neg (by simpa using known)]
    · rw [if_neg known, List.filter_cons_of_pos (by simpa using known), List.eraseDups_cons,
        List.append_assoc, List.singleton_append, List.filter_filter]
      -- what is new to the longer palette is new to the shorter one, and is not the color just
      -- added
      congr 3
      apply List.filter_congr
      intro other _
      by_cases same : other = upperColor color <;> simp [same]

/-- Members that are kept of a list come in the order of their first places in the whole list. -/
theorem pairwise_idxOf_eraseDups (kept : String → Bool) (colors : List String) :
    (colors.filter kept).eraseDups.Pairwise fun a b => colors.idxOf a < colors.idxOf b := by
  induction colors generalizing kept with
  | nil => simp
  | cons first colors ih =>
    -- behind the first color, places move by one for every color but the first
    have later (kept : String → Bool) (not_first : ∀ color, kept color → color ≠ first) :
        (colors.filter kept).eraseDups.Pairwise fun a b =>
          (first :: colors).idxOf a < (first :: colors).idxOf b := by
      refine (ih kept).imp_of_mem ?_
      intro a b mem mem' low
      have ne := not_first a (List.mem_filter.mp (List.mem_eraseDups.mp mem)).2
      have ne' := not_first b (List.mem_filter.mp (List.mem_eraseDups.mp mem')).2
      rw [List.idxOf_cons_ne _ ne.symm, List.idxOf_cons_ne _ ne'.symm]
      exact Nat.succ_lt_succ low
    by_cases keep : kept first
    · rw [List.filter_cons_of_pos keep, List.eraseDups_cons, List.filter_filter, List.pairwise_cons]
      have not_first (color : String) (both : (!color == first && kept color) = true) :
          color ≠ first := by
        simpa using (Bool.and_eq_true_iff.mp both).1
      refine ⟨?_, later _ not_first⟩
      intro b mem
      have ne := not_first b (List.mem_filter.mp (List.mem_eraseDups.mp mem)).2
      rw [List.idxOf_cons_self, List.idxOf_cons_ne _ ne.symm]
      exact Nat.succ_pos _
    · rw [List.filter_cons_of_neg keep]
      refine later _ ?_
      rintro color here rfl
      exact keep here

/-! ## The layout -/

/-- The colors of the rules of a theme as a palette keeps them, the foreground of a rule before its
background. -/
def ruleColors (theme : Theme) : List String :=
  theme.rules.flatMap fun r =>
    (r.style.foreground.toList ++ r.style.background.toList).map upperColor

/-- The slot of the page color: that of the text color where the two are the same. -/
def pageSlot (theme : Theme) : Nat := if SameButCase theme.textColor theme.pageColor then 1 else 2

/-- The colors that the rules of a theme add to the text color and the page color. -/
structure Remaining (theme : Theme) (rest : List String) : Prop where
  /-- They are the colors of rules that are neither of the two. -/
  members : ∀ color, color ∈ rest ↔
    color ∈ ruleColors theme ∧ color ≠ upperColor theme.textColor ∧
    color ≠ upperColor theme.pageColor
  /-- They stand in the order in which the rules mention them first, and so each of them stands
  once. -/
  order : rest.Pairwise fun a b => (ruleColors theme).idxOf a < (ruleColors theme).idxOf b

/-- Where the colors of a theme stand in a palette. -/
structure LaidOut (theme : Theme) (p : Palette) : Prop where
  reserved : p.color? 0 = none
  text : p.color? 1 = some (upperColor theme.textColor)
  page : p.color? (pageSlot theme) = some (upperColor theme.pageColor)
  /-- Slot 2 has the page color exactly where it is another color than the text color. -/
  second : p.color? 2 = some (upperColor theme.pageColor) ↔
    ¬ SameButCase theme.textColor theme.pageColor
  /-- From the next slot on stand the remaining colors of the rules. -/
  rules : ∃ rest, Remaining theme rest ∧ ∀ i, p.color? (pageSlot theme + 1 + i) = rest[i]?

theorem remaining_eraseDups (theme : Theme) (kept : String → Bool)
    (keeps : ∀ color, kept color ↔
      color ≠ upperColor theme.textColor ∧ color ≠ upperColor theme.pageColor) :
    Remaining theme ((ruleColors theme).filter kept).eraseDups where
  members color := by rw [List.mem_eraseDups, List.mem_filter, keeps]
  order := pairwise_idxOf_eraseDups kept (ruleColors theme)

/-- The palette of a theme: the two colors that hold where no rule decides, without repetition, and
the rest. -/
theorem exists_named_ofTheme (theme : Theme) : ∃ rest, Remaining theme rest ∧
    (ofTheme theme).named = upperColor theme.textColor ::
      (if SameButCase theme.textColor theme.pageColor then []
        else [upperColor theme.pageColor]) ++ rest := by
  have mentions : (mentioned theme).map upperColor =
      upperColor theme.textColor :: upperColor theme.pageColor :: ruleColors theme := by
    rw [mentioned, List.map_cons, List.map_cons, List.map_flatMap, ruleColors]
  have all : (ofTheme theme).named = ((mentioned theme).map upperColor).eraseDups := by
    rw [ofTheme, named_foldl_insert consistent_empty]
    simp [named, empty]
  rw [all, mentions, List.eraseDups_cons]
  by_cases same : SameButCase theme.textColor theme.pageColor
  · have colors := upperColor_eq_iff.mpr same
    refine ⟨_, remaining_eraseDups theme (fun color => !color == upperColor theme.textColor) ?_, ?_⟩
    · intro color
      simp [colors]
    · rw [if_pos same, List.filter_cons_of_neg (by simp [colors])]
      rfl
  · have colors : upperColor theme.pageColor ≠ upperColor theme.textColor :=
      fun equal => same (upperColor_eq_iff.mp equal.symm)
    refine ⟨_, remaining_eraseDups theme
      (fun color => !color == upperColor theme.pageColor &&
        !color == upperColor theme.textColor) ?_, ?_⟩
    · intro color
      simp [and_comm]
    · rw [if_neg same, List.filter_cons_of_pos (by simpa using colors), List.eraseDups_cons,
        List.filter_filter]
      rfl

/-- The palette of every theme is laid out: the text color, the page color unless it is the same,
and the remaining colors of the rules in the order in which they are mentioned first. -/
theorem ofTheme_laidOut (theme : Theme) : (ofTheme theme).LaidOut theme := by
  obtain ⟨rest, remaining, colors⟩ := exists_named_ofTheme theme
  have neither (i : Nat) : rest[i]? ≠ some (upperColor theme.pageColor) := fun found =>
    ((remaining.members _).mp (List.mem_of_getElem? found)).2.2 rfl
  by_cases same : SameButCase theme.textColor theme.pageColor
  · rw [if_pos same] at colors
    have slot : pageSlot theme = 1 := if_pos same
    have behind (i : Nat) : (ofTheme theme).color? (2 + i) = rest[i]? := by
      rw [show 2 + i = i + 1 + 1 by omega, color?_succ, colors]
      rfl
    refine ⟨rfl, ?_, ?_, ?_, rest, remaining, ?_⟩
    · rw [color?_succ, colors]
      rfl
    · rw [slot, color?_succ, colors, ← upperColor_eq_iff.mpr same]
      rfl
    · exact iff_of_false (behind 0 ▸ neither 0) (not_not_intro same)
    · rw [slot]
      exact behind
  · rw [if_neg same] at colors
    have slot : pageSlot theme = 2 := if_neg same
    have page : (ofTheme theme).color? 2 = some (upperColor theme.pageColor) := by
      rw [color?_succ, colors]
      rfl
    refine ⟨rfl, ?_, ?_, iff_of_true page same, rest, remaining, ?_⟩
    · rw [color?_succ, colors]
      rfl
    · rw [slot]
      exact page
    · intro i
      rw [slot, show 2 + 1 + i = i + 2 + 1 by omega, color?_succ, colors]
      rfl

/-- A theme that sets a black page and leaves the text color alone: slot 2 has the color of its
rule. -/
theorem second_slot_not_page :
    let night : Theme :=
      { name := "night", background := some "#000000",
        rules := [{ selector := .parse "comment", style := { foreground := some "#6a9955" } }] }
    (ofTheme night).color? 2 = some "#6A9955" ∧
    ¬ (ofTheme night).color? 2 = some (upperColor night.pageColor) := by
  decide +kernel

end Palette

end Highlight
