import Highlight.Theme.Matching

/-!
# Every rule that touches a scope

Where `bestRule?` finds the one rule that decides a scope, an explanation lists all rules that speak
of it. Here an alternative is read as a path: its last word covers the scope, and its other words
cover, in order, scopes that lie further and further outside.
-/

namespace Highlight.Theme

/-- The words cover some of the scopes in order; both lists start at the innermost. Each scope
answers for at most one word, and taking the first that fits is enough. -/
def coverInOrder : List String → List String → Bool
  | [], _ => true
  | _ :: _, [] => false
  | w :: ws, s :: ss => if Scope.covers w s then coverInOrder ws ss else coverInOrder (w :: ws) ss

/-- The path reaches the scope inside the given ones, which are listed from the innermost
outwards. -/
def pathReaches (path scope : String) (around : List String) : Bool :=
  match (Unicode.words path).reverse with
  | [] => false
  | last :: outer => Scope.covers last scope && coverInOrder outer around

/-- A scope with the rules that speak of it, in theme order. -/
structure ScopeExplanation where
  scope : String
  hits : List RuleHit

/-- The rules that speak of a scope inside the given ones, innermost first. -/
def hitsOf (rules : List Rule) (scope : String) (around : List String) : List RuleHit :=
  (rules.zipIdx.map fun (rule, index) => ⟨index, rule⟩).filter fun hit =>
    hit.rule.selector.alternatives.any fun path => pathReaches path scope around

/-- Explains the scopes of a chain from the outermost inwards; `around` holds those already
explained, innermost first. -/
def explainFrom (rules : List Rule) : List String → List String → List ScopeExplanation
  | _, [] => []
  | around, scope :: inner =>
    ⟨scope, hitsOf rules scope around⟩ :: explainFrom rules (scope :: around) inner

/-- Explains every scope of a chain, which runs from the outermost scope inwards. -/
def explain (rules : List Rule) (chain : List String) : List ScopeExplanation :=
  explainFrom rules [] chain

end Highlight.Theme
