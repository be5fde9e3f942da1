import Highlight.Proofs.Theme.Deciding
import Highlight.Proofs.Theme.Memory
import Mathlib.Data.Finset.Card

/-!
# A matcher under any sequence of questions

A matcher is asked for single scopes and for lists of scopes, in any order. Whatever was asked
before, every answer is the deciding rule (`Question.Answers`), and the matcher has remembered
exactly the scopes that were looked up, each of them once (`Keeps`). In a list the scopes behind the
first decided one are not looked up.

One question keeps this (`Keeps.ask`); a sequence of questions is a run of such steps
(`Keeps.askAll`).
-/

namespace Highlight

open Theme (Touches Decides)

/-- A question to a matcher. -/
inductive Question where
  /-- Which rule decides the scope? -/
  | one (scope : String)
  /-- Which rule decides the first decided scope of the list? -/
  | firstOf (scopes : List String)

namespace Question

/-- The answer names the rule that decides the scope, or the first scope of the list that any rule
touches; no rule is named exactly when none touches any of them. -/
def Answers (rules : List Rule) : Question → Option RuleHit → Prop
  | one scope, answer =>
    (answer = none ↔ ¬ Touches rules scope) ∧ ∀ hit ∈ answer, Decides rules scope hit
  | firstOf scopes, answer =>
    (answer = none ↔ ∀ scope ∈ scopes, ¬ Touches rules scope) ∧
      ∀ hit ∈ answer, ∃ before scope behind, scopes = before ++ scope :: behind ∧
        (∀ other ∈ before, ¬ Touches rules other) ∧ Decides rules scope hit

/-- The scopes that have to be looked up: of a list, those up to the first that a rule touches. -/
def lookedUp (rules : List Rule) : Question → List String
  | one scope => [scope]
  | firstOf scopes => scopes.take (scopes.findIdx (fun scope => decide (Touches rules scope)) + 1)

theorem lookedUp_cons_of_touches {rules : List Rule} {scope : String}
    (touches : Touches rules scope) (scopes : List String) :
    (firstOf (scope :: scopes)).lookedUp rules = [scope] := by
  simp [lookedUp, List.findIdx_cons, touches]

theorem lookedUp_cons_of_not_touches {rules : List Rule} {scope : String}
    (untouched : ¬ Touches rules scope) (scopes : List String) :
    (firstOf (scope :: scopes)).lookedUp rules = scope :: (firstOf scopes).lookedUp rules := by
  simp [lookedUp, List.findIdx_cons, untouched]

end Question

namespace Theme

theorem bestRule?_answers (rules : List Rule) (scope : String) :
    (Question.one scope).Answers rules (bestRule? rules scope) :=
  ⟨bestRule?_eq_none_iff, fun _ best => bestRule?_eq_some_iff.mp best⟩

theorem bestRuleOfAny?_answers (rules : List Rule) (scopes : List String) :
    (Question.firstOf scopes).Answers rules (bestRuleOfAny? rules scopes) := by
  refine ⟨?_, ?_⟩
  · rw [bestRuleOfAny?, List.findSome?_eq_none_iff]
    exact forall₂_congr fun scope _ => bestRule?_eq_none_iff
  · intro hit best
    obtain ⟨before, scope, behind, split, decided, passed⟩ := List.findSome?_eq_some_iff.mp best
    refine ⟨before, scope, behind, split, ?_, bestRule?_eq_some_iff.mp decided⟩
    exact fun other mem => bestRule?_eq_none_iff.mp (passed other mem)

end Theme

namespace Matcher

/-- Answers a question. -/
def ask (m : Matcher) : Question → Option RuleHit × Matcher
  | .one scope => m.best scope
  | .firstOf scopes => m.bestOfAny scopes

/-- Answers questions one after the other. -/
def askAll : Matcher → List Question → List (Option RuleHit) × Matcher
  | m, [] => ([], m)
  | m, q :: qs => ((m.ask q).1 :: ((m.ask q).2.askAll qs).1, ((m.ask q).2.askAll qs).2)

/-- The matcher is sound and remembers the scopes of the list, each of them once. -/
structure Keeps (rules : List Rule) (scopes : List String)
    (m : Matcher) : Prop extends Sound rules m where
  nodup : (m.known.map Prod.fst).Nodup
  mem_iff : ∀ scope, scope ∈ m.known.map Prod.fst ↔ scope ∈ scopes

namespace Keeps

variable {rules : List Rule} {scopes : List String} {m : Matcher}

theorem fresh (rules : List Rule) : Keeps rules [] { rules } :=
  ⟨sound_fresh rules, List.nodup_nil, fun _ => Iff.rfl⟩

theorem size_eq (keeps : Keeps rules scopes m) : m.size = scopes.toFinset.card := by
  have same : (m.known.map Prod.fst).toFinset = scopes.toFinset := by
    ext scope
    rw [List.mem_toFinset, List.mem_toFinset, keeps.mem_iff]
  rw [← same, List.toFinset_card_of_nodup keeps.nodup, List.length_map]
  rfl

/-- A scope that is asked for is remembered from then on, once. -/
theorem best (keeps : Keeps rules scopes m) (scope : String) :
    Keeps rules (scopes ++ [scope]) (m.best scope).2 := by
  have sound := (keeps.toSound.best scope).2
  unfold Matcher.best at sound ⊢
  split at sound
  next answer found =>
    have known : scope ∈ scopes := by
      obtain ⟨front, back, split, _⟩ := List.lookup_eq_some_iff.mp found
      rw [← keeps.mem_iff, split]
      simp
    refine ⟨sound, keeps.nodup, ?_⟩
    intro other
    rw [keeps.mem_iff]
    simp only [List.mem_append, List.mem_singleton]
    exact ⟨.inl, fun mem => mem.elim id (· ▸ known)⟩
  next unknown =>
    have new : scope ∉ m.known.map Prod.fst := by
      intro mem
      obtain ⟨pair, held, rfl⟩ := List.mem_map.mp mem
      simpa using List.lookup_eq_none_iff.mp unknown pair held
    refine ⟨sound, List.nodup_cons.mpr ⟨new, keeps.nodup⟩, ?_⟩
    intro other
    rw [List.map_cons, List.mem_cons, keeps.mem_iff, List.mem_append, List.mem_singleton]
    exact Or.comm

/-- Of a list, the scopes up to the first decided one are remembered. -/
theorem bestOfAny (keeps : Keeps rules scopes m) (names : List String) :
    Keeps rules (scopes ++ (Question.firstOf names).lookedUp rules) (m.bestOfAny names).2 := by
  induction names generalizing scopes m with
  | nil => simpa [Question.lookedUp, Matcher.bestOfAny] using keeps
  | cons name names ih =>
    have kept := keeps.best name
    have answered := (keeps.toSound.best name).1
    rw [Matcher.bestOfAny]
    split
    next hit m' asked =>
      rw [asked] at kept answered
      have touches : Touches rules name := (Theme.bestRule?_eq_some_iff.mp answered.symm).touches
      rw [Question.lookedUp_cons_of_touches touches]
      exact kept
    next m' asked =>
      rw [asked] at kept answered
      have untouched : ¬ Touches rules name := Theme.bestRule?_eq_none_iff.mp answered.symm
      rw [Question.lookedUp_cons_of_not_touches untouched, ← List.singleton_append,
        ← List.append_assoc]
      exact ih kept

/-- One question is answered rightly, and adds the scopes that it looks up. -/
theorem ask (keeps : Keeps rules scopes m) (q : Question) :
    q.Answers rules (m.ask q).1 ∧ Keeps rules (scopes ++ q.lookedUp rules) (m.ask q).2 := by
  cases q with
  | one scope =>
    refine ⟨?_, keeps.best scope⟩
    rw [Matcher.ask, (keeps.toSound.best scope).1]
    exact Theme.bestRule?_answers rules scope
  | firstOf names =>
    refine ⟨?_, keeps.bestOfAny names⟩
    rw [Matcher.ask, (keeps.toSound.bestOfAny names).1]
    exact Theme.bestRuleOfAny?_answers rules names

/-- So is a sequence of questions. -/
theorem askAll (keeps : Keeps rules scopes m) (qs : List Question) :
    List.Forall₂ (Question.Answers rules) qs (m.askAll qs).1 ∧
      Keeps rules (scopes ++ qs.flatMap (Question.lookedUp rules)) (m.askAll qs).2 := by
  induction qs generalizing scopes m with
  | nil => exact ⟨.nil, by simpa [Matcher.askAll] using keeps⟩
  | cons q qs ih =>
    obtain ⟨answered, kept⟩ := keeps.ask q
    obtain ⟨others, kept⟩ := ih kept
    refine ⟨.cons answered others, ?_⟩
    rw [List.flatMap_cons, ← List.append_assoc]
    exact kept

end Keeps

/-- Whatever questions a fresh matcher is asked: every answer names the first rule with the longest
alternative that covers the scope, or none where no alternative does, and the matcher counts the
different scopes looked up. -/
theorem askAll_answered_and_counted (rules : List Rule) (qs : List Question) :
    List.Forall₂ (Question.Answers rules) qs (({ rules } : Matcher).askAll qs).1 ∧
      (({ rules } : Matcher).askAll qs).2.size =
        (qs.flatMap (Question.lookedUp rules)).toFinset.card := by
  obtain ⟨answered, keeps⟩ := (Keeps.fresh rules).askAll qs
  exact ⟨answered, keeps.size_eq⟩

end Matcher

end Highlight
