import Highlight.Text.Bytes
import Highlight.Theme.Basic

/-!
# The rule that decides a scope

Of the rules with an alternative that covers a scope, the one with the longest such alternative
decides, and of several with equally long ones the first. `bestRule?` computes this anew; a
`Matcher` computes it once per scope and remembers the answer, and says how many scopes it
remembers.
-/

namespace Highlight

/-- A rule of a theme with its position in the theme. -/
structure RuleHit where
  index : Nat
  rule : Rule
deriving Repr, DecidableEq

namespace Theme

/-- The best hit so far, with the byte length of the alternative that made it. -/
structure Contest where
  hit : RuleHit
  length : Nat

/-- Enters an alternative of a rule into the contest: it wins when it covers the scope and is
strictly longer than what won before. -/
def enter (scope : String) (hit : RuleHit) (best : Option Contest) (alternative : String) :
    Option Contest :=
  if Scope.covers alternative scope then
    match best with
    | none => some ⟨hit, byteSize alternative⟩
    | some b => if b.length < byteSize alternative then some ⟨hit, byteSize alternative⟩ else best
  else best

/-- Enters the rules from position `i` on, in order. -/
def contest (scope : String) : Nat → Option Contest → List Rule → Option Contest
  | _, best, [] => best
  | i, best, r :: rs =>
    contest scope (i + 1) (r.selector.alternatives.foldl (enter scope ⟨i, r⟩) best) rs

/-- The rule that decides a scope. -/
def bestRule? (rules : List Rule) (scope : String) : Option RuleHit :=
  (contest scope 0 none rules).map (·.hit)

/-- The rule that decides the first decided scope of a list. -/
def bestRuleOfAny? (rules : List Rule) (scopes : List String) : Option RuleHit :=
  scopes.findSome? (bestRule? rules)

end Theme

/-- The rules of a theme with the answers given so far. -/
structure Matcher where
  rules : List Rule
  known : List (String × Option RuleHit) := []

namespace Matcher

/-- The rule that decides a scope, and the matcher that remembers it. -/
def best (m : Matcher) (scope : String) : Option RuleHit × Matcher :=
  match m.known.lookup scope with
  | some answer => (answer, m)
  | none =>
    let answer := Theme.bestRule? m.rules scope
    (answer, { m with known := (scope, answer) :: m.known })

/-- The rule that decides the first decided scope of a list; the scopes after it are not looked
up. -/
def bestOfAny (m : Matcher) : List String → Option RuleHit × Matcher
  | [] => (none, m)
  | scope :: scopes =>
    match m.best scope with
    | (some hit, m) => (some hit, m)
    | (none, m) => m.bestOfAny scopes

/-- Number of scopes that have been looked up. -/
def size (m : Matcher) : Nat := m.known.length

end Matcher

end Highlight
