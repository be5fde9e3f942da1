import Highlight.Theme.Matching

/-!
# What a matcher remembers is right

A matcher answers from memory where it can. Its memory is *sound* when every answer in it is the one
that `bestRule?` computes; questions keep it so (`Sound.best`, `Sound.bestOfAny`), and therefore
every matcher that questions lead to answers as if it were fresh. Reachable matchers are those,
stated as a relation of its own.
-/

namespace Highlight.Matcher

/-- The matcher is for these rules, and remembers only right answers. -/
structure Sound (rules : List Rule) (m : Matcher) : Prop where
  rules_eq : m.rules = rules
  known_eq : ∀ scope answer, m.known.lookup scope = some answer →
    answer = Theme.bestRule? rules scope

/-- The matchers that a fresh one becomes when it is asked for scopes and for lists of scopes. -/
inductive Reachable (rules : List Rule) : Matcher → Prop
  | fresh : Reachable rules { rules }
  | best {m : Matcher} (scope : String) : Reachable rules m → Reachable rules (m.best scope).2
  | bestOfAny {m : Matcher} (scopes : List String) :
      Reachable rules m → Reachable rules (m.bestOfAny scopes).2

variable {rules : List Rule} {m : Matcher}

theorem sound_fresh (rules : List Rule) : Sound rules { rules } :=
  ⟨rfl, fun _ _ found => nomatch found⟩

/-- One question is answered as by a fresh matcher, and what is then remembered is right. -/
theorem Sound.best (sound : Sound rules m) (scope : String) :
    (m.best scope).1 = Theme.bestRule? rules scope ∧ Sound rules (m.best scope).2 := by
  unfold Matcher.best
  split
  next answer found => exact ⟨sound.known_eq scope answer found, sound⟩
  next =>
    rw [sound.rules_eq]
    refine ⟨rfl, rfl, ?_⟩
    intro other answer found
    rw [List.lookup_cons] at found
    split at found
    next same =>
      rw [beq_iff_eq.mp same]
      exact (Option.some.inj found).symm
    next => exact sound.known_eq other answer found

/-- So is a question for a list of scopes. -/
theorem Sound.bestOfAny (sound : Sound rules m) (scopes : List String) :
    (m.bestOfAny scopes).1 = Theme.bestRuleOfAny? rules scopes ∧
    Sound rules (m.bestOfAny scopes).2 := by
  induction scopes generalizing m with
  | nil => exact ⟨rfl, sound⟩
  | cons scope scopes ih =>
    obtain ⟨first, kept⟩ := sound.best scope
    rw [Matcher.bestOfAny, Theme.bestRuleOfAny?, List.findSome?_cons, ← first]
    split
    next hit m' asked =>
      rw [asked] at kept ⊢
      exact ⟨rfl, kept⟩
    next m' asked =>
      rw [asked] at kept ⊢
      exact ih kept

/-- Questions lead to sound matchers only. -/
theorem Reachable.sound (reachable : Reachable rules m) : Sound rules m := by
  induction reachable with
  | fresh => exact sound_fresh rules
  | best scope _ ih => exact (ih.best scope).2
  | bestOfAny scopes _ ih => exact (ih.bestOfAny scopes).2

end Highlight.Matcher
