import Highlight.Theme.Explanation
import Highlight.Theme.Palette

/-!
# What a theme says of scopes

Two changes to a theme leave alone what it says of every scope: taking away the rules that speak of
no scope, and writing its colors in another letter case. The `essence` of rules undoes both: it
holds the rules that speak of scopes, with their colors in upper case. Which rule decides a scope is
known from the essence, but for the place of the rule in the theme (`bestRule?_essence`), and so are
all the rules that speak of a scope (`hitsOf_essence`).
-/

namespace Highlight

/-- The rule with its colors in upper case. -/
def Rule.folded (r : Rule) : Rule :=
  { r with style := { r.style with
      foreground := r.style.foreground.map upperColor
      background := r.style.background.map upperColor } }

namespace Theme

/-- The theme with its colors in upper case. Themes that differ in the letter case of colors only
are those that are equal when folded. -/
def folded (t : Theme) : Theme :=
  { t with
    foreground := t.foreground.map upperColor
    background := t.background.map upperColor
    rules := t.rules.map Rule.folded }

/-- The theme without the rules that speak of no scope. -/
def withoutWhole (t : Theme) : Theme := { t with rules := t.rules.filter (!·.selector.isWhole) }

/-- The rules that speak of scopes, with their colors in upper case. -/
def essence (rules : List Rule) : List Rule := (rules.filter (!·.selector.isWhole)).map Rule.folded

theorem essence_cons_of_isWhole {r : Rule} (whole : r.selector.isWhole) (rules : List Rule) :
    essence (r :: rules) = essence rules := by
  simp [essence, whole]

theorem essence_cons_of_not_isWhole {r : Rule} (speaks : ¬ r.selector.isWhole) (rules : List Rule) :
    essence (r :: rules) = r.folded :: essence rules := by
  simp [essence, speaks]

theorem essence_withoutWhole (t : Theme) : essence t.withoutWhole.rules = essence t.rules := by
  simp [essence, withoutWhole]

theorem essence_eq_of_folded {t t' : Theme} (same : t.folded = t'.folded) :
    essence t.rules = essence t'.rules := by
  have rules : t.rules.map Rule.folded = t'.rules.map Rule.folded := congrArg Theme.rules same
  have filtered (rules : List Rule) : essence rules =
      (rules.map Rule.folded).filter (!·.selector.isWhole) := by
    rw [List.filter_map]
    rfl
  rw [filtered, filtered, rules]

/-! ## The deciding rule -/

section Deciding

variable (scope : String)

/-- The leader of a contest, with its colors in upper case, and the length of its alternative. -/
def Contest.standing (c : Contest) : Rule × Nat := (c.hit.rule.folded, c.length)

/-- The leader of a contest as it is, and the length of its alternative. -/
def Contest.bare (c : Contest) : Rule × Nat := (c.hit.rule, c.length)

/-- A rule and the rule in upper case have the same chances, wherever they stand. -/
theorem enter_folded (r : Rule) (i j : Nat) {best best' : Option Contest}
    (level : best.map Contest.standing = best'.map Contest.bare) (alternative : String) :
    (enter scope ⟨i, r⟩ best alternative).map Contest.standing =
      (enter scope ⟨j, r.folded⟩ best' alternative).map Contest.bare := by
  unfold enter
  split
  next =>
    cases best with
    | none =>
      cases best' with
      | none => rfl
      | some b' => cases level
    | some b =>
      cases best' with
      | none => cases level
      | some b' =>
        have lengths : b.length = b'.length := congrArg Prod.snd (Option.some.inj level)
        dsimp only
        rw [lengths]
        split
        next => rfl
        next => exact level
  next => exact level

theorem contest_essence (rules : List Rule) (i j : Nat) (best best' : Option Contest)
    (level : best.map Contest.standing = best'.map Contest.bare) :
    (contest scope i best rules).map Contest.standing =
      (contest scope j best' (essence rules)).map Contest.bare := by
  induction rules generalizing i j best best' with
  | nil => exact level
  | cons r rules ih =>
    by_cases whole : r.selector.isWhole
    · have none : r.selector.alternatives = [] := by simpa [Selector.isWhole] using whole
      rw [essence_cons_of_isWhole whole, contest, none]
      exact ih (i + 1) j best best' level
    · rw [essence_cons_of_not_isWhole whole, contest, contest]
      apply ih
      show _ = (r.selector.alternatives.foldl (enter scope ⟨j, r.folded⟩) best').map Contest.bare
      induction r.selector.alternatives generalizing best best' with
      | nil => exact level
      | cons alternative rest step => exact step _ _ (enter_folded scope r i j level alternative)

/-- The essence of the rules knows what decides a scope. -/
theorem bestRule?_essence (rules : List Rule) :
    (bestRule? rules scope).map (·.rule.folded) =
      (bestRule? (essence rules) scope).map (·.rule) := by
  have level := contest_essence scope rules 0 0 none none rfl
  have leaders := congrArg (Option.map Prod.fst) level
  rw [Option.map_map, Option.map_map] at leaders
  rw [bestRule?, bestRule?, Option.map_map, Option.map_map]
  exact leaders

end Deciding

section Same

variable {rules rules' : List Rule} (same : essence rules = essence rules')
include same

theorem bestRule?_folded_eq (scope : String) :
    (bestRule? rules scope).map (·.rule.folded) = (bestRule? rules' scope).map (·.rule.folded) := by
  rw [bestRule?_essence, bestRule?_essence, same]

theorem bestRuleOfAny?_folded_eq (scopes : List String) :
    (bestRuleOfAny? rules scopes).map (·.rule.folded) =
      (bestRuleOfAny? rules' scopes).map (·.rule.folded) := by
  unfold bestRuleOfAny?
  rw [List.map_findSome?, List.map_findSome?]
  congr 1
  funext scope
  exact bestRule?_folded_eq same scope

end Same

/-! ## All rules that speak of a scope -/

theorem hitsOf_rules (rules : List Rule) (scope : String) (around : List String) :
    (hitsOf rules scope around).map (·.rule) =
      rules.filter fun r => r.selector.alternatives.any fun path =>
        pathReaches path scope around := by
  have numbered := congrArg
    (List.filter fun r => r.selector.alternatives.any fun path => pathReaches path scope around)
    (List.zipIdx_map_fst 0 rules)
  rw [← numbered, hitsOf, List.filter_map, List.filter_map, List.map_map]
  rfl

theorem hitsOf_essence (rules : List Rule) (scope : String) (around : List String) :
    (hitsOf rules scope around).map (·.rule.folded) =
      (hitsOf (essence rules) scope around).map (·.rule) := by
  have split : (hitsOf rules scope around).map (·.rule.folded) =
      ((hitsOf rules scope around).map (·.rule)).map Rule.folded := by rw [List.map_map]; rfl
  rw [split, hitsOf_rules, hitsOf_rules, essence, List.filter_map, List.filter_filter]
  congr 1
  apply List.filter_congr
  intro r _
  show r.selector.alternatives.any _ =
      (r.selector.alternatives.any _ && !r.selector.alternatives.isEmpty)
  cases r.selector.alternatives <;> simp

/-- What an explanation shows of the rules that speak of the scopes of a chain. -/
theorem explain_labels_eq {rules rules' : List Rule} (same : essence rules = essence rules')
    (chain : List String) :
    (explain rules chain).map (fun e => (e.scope, e.hits.map (·.rule.label))) =
      (explain rules' chain).map (fun e => (e.scope, e.hits.map (·.rule.label))) := by
  have labels (scope : String) (around : List String) :
      (hitsOf rules scope around).map (·.rule.label) =
        (hitsOf rules' scope around).map (·.rule.label) := by
    have hits : (hitsOf rules scope around).map (·.rule.folded) =
        (hitsOf rules' scope around).map (·.rule.folded) := by
      rw [hitsOf_essence, hitsOf_essence, same]
    have shown := congrArg (List.map Rule.label) hits
    rw [List.map_map, List.map_map] at shown
    exact shown
  have behind (around : List String) :
      (explainFrom rules around chain).map (fun e => (e.scope, e.hits.map (·.rule.label))) =
        (explainFrom rules' around chain).map (fun e => (e.scope, e.hits.map (·.rule.label))) := by
    induction chain generalizing around with
    | nil => rfl
    | cons scope inner ih => simp only [explainFrom, List.map_cons, labels, ih]
  exact behind []

end Theme

end Highlight
