import Highlight.Proofs.Theme.Memory
import Highlight.Proofs.Theme.Paths

/-!
# The deciding rule is among the listed ones

Two readings of a theme's alternatives are in use. What decides a scope is an alternative that
covers the scope as a whole text; what is listed for it are paths, whose words are looked for among
the scopes around as well. A scope without blanks is covered only by alternatives without blanks,
and such an alternative is a path of one word, which leads wherever it covers (`leads_iff_covers`).
So the rule that decides is always listed.

An alternative that is empty would cover the scope `.x` and be no path. Selectors that are read from
a text or a list have none (`Selector.Written`).
-/

namespace Highlight

/-! ## Texts without blanks -/

namespace Unicode

/-- No character of the text is blank. -/
def Unbroken (s : String) : Prop := ∀ ch ∈ s.toList, isBlank ch = false

instance (s : String) : Decidable (Unbroken s) :=
  List.decidableBAll (fun ch => isBlank ch = false) s.toList

theorem wordsFrom_of_unbroken (piece cs : List Char) (filled : piece ++ cs ≠ [])
    (unbroken : ∀ ch ∈ cs, isBlank ch = false) : wordsFrom piece cs = [piece.reverse ++ cs] := by
  induction cs generalizing piece with
  | nil =>
    have filled : piece ≠ [] := by simpa using filled
    simp [wordsFrom, filled]
  | cons ch cs ih =>
    obtain ⟨first, rest⟩ := List.forall_mem_cons.mp unbroken
    rw [wordsFrom, if_neg (by simp [first]), ih (ch :: piece) (List.cons_ne_nil _ _) rest]
    simp

theorem words_of_unbroken {s : String} (unbroken : Unbroken s) (filled : s ≠ "") :
    words s = [s] := by
  rw [words, wordsFrom_of_unbroken [] s.toList (by simpa using filled) unbroken]
  simp

end Unicode

open Unicode (Unbroken)

theorem Scope.Covers.unbroken {name scope : String} (covers : Covers name scope)
    (unbroken : Unbroken scope) :
    Unbroken name := by
  intro ch mem
  rcases covers with rfl | ⟨rest, rfl⟩
  · exact unbroken ch mem
  · exact unbroken ch (by simp [mem])

/-! ## Selectors that were read -/

namespace Selector

/-- The selector was read from a text or from a list of alternatives. -/
def Written (s : Selector) : Prop :=
  (∃ text, s = parse text) ∨ ∃ alternatives, s = ofList alternatives

theorem Written.ne_empty {s : Selector} (written : s.Written) {alternative : String}
    (owned : alternative ∈ s.alternatives) : alternative ≠ "" := by
  have kept {given : List String} (owned : alternative ∈ (ofList given).alternatives) :
      alternative ≠ "" := by
    simpa using (List.mem_filter.mp owned).2
  rcases written with ⟨text, rfl⟩ | ⟨given, rfl⟩
  · exact kept owned
  · exact kept owned

end Selector

/-! ## Both readings -/

namespace Theme

/-- A path of one word leads to what it covers, whatever lies around. -/
theorem leads_iff_covers {alternative scope : String} (unbroken : Unbroken alternative)
    (filled : alternative ≠ "") (around : List String) :
    Leads alternative scope around ↔ Scope.Covers alternative scope := by
  have alone : Unicode.words alternative = [] ++ [alternative] :=
    Unicode.words_of_unbroken unbroken filled
  constructor
  · rintro ⟨outer, last, split, covers, -⟩
    obtain ⟨-, same⟩ := List.append_inj' (alone.symm.trans split) rfl
    rwa [List.singleton_inj.mp same]
  · exact fun covers => ⟨[], alternative, alone, covers, fun i => i.elim0, fun i => i.elim0,
      fun i => i.elim0⟩

/-- The leader of the contest owns an alternative of the recorded length, which is a longest one. -/
theorem exists_longest_of_contest {rules : List Rule} {scope : String} {best : Contest}
    (led : contest scope 0 none rules = some best) :
    rules[best.hit.index]? = some best.hit.rule ∧
      ∃ a ∈ best.hit.rule.selector.alternatives,
        byteSize a = best.length ∧ Longest rules scope a := by
  rw [contest_eq_argmax] at led
  obtain ⟨e, found, rfl⟩ := Option.map_eq_some_iff.mp led
  obtain ⟨placed, owned, -⟩ := mem_candidates.mp (List.argmax_mem found)
  exact ⟨placed, e.alternative, owned, rfl, longest_of_argmax found⟩

/-- Whatever a matcher for the rules was asked before: the rule that decides a scope of a chain is
among those that the explanation of the chain lists for it. Of the alternatives without blanks that
the listed rules own, those that lead to the scope are those that cover it, and none of them is
longer than the one that decided. -/
theorem deciding_rule_explained {rules : List Rule} (written : ∀ r ∈ rules, r.selector.Written)
    {outer inner : List String} {scope : String}
    (unbroken : ∀ s ∈ outer ++ scope :: inner, Unbroken s) {m : Matcher} (asked : m.Reachable rules)
    {hit : RuleHit} (decided : (m.best scope).1 = some hit) :
    ∃ hits, (explain rules (outer ++ scope :: inner))[outer.length]? = some ⟨scope, hits⟩ ∧
      hit ∈ hits ∧
      ∃ a ∈ hit.rule.selector.alternatives, Scope.Covers a scope ∧
        contest scope 0 none rules = some ⟨hit, byteSize a⟩ ∧
        ∀ other ∈ hits, ∀ b ∈ other.rule.selector.alternatives, Unbroken b →
          (Leads b scope outer ↔ Scope.Covers b scope) ∧
          (Scope.Covers b scope → byteSize b ≤ byteSize a) := by
  rw [(asked.sound.best scope).1] at decided
  obtain ⟨best, led, rfl⟩ := Option.map_eq_some_iff.mp decided
  obtain ⟨placed, a, owned, size, covers, longest⟩ := exists_longest_of_contest led
  have whole : Unbroken a := covers.unbroken (unbroken scope (by simp))
  have filled : a ≠ "" := (written _ (List.mem_of_getElem? placed)).ne_empty owned
  refine ⟨_, explain_getElem? rules scope outer inner, ?_, a, owned, covers, ?_, ?_⟩
  · exact mem_hitsOf.mpr ⟨placed, a, owned, (leads_iff_covers whole filled outer).mpr covers⟩
  · rw [led, size]
  · intro other listed b owned' whole'
    have mem : other.rule ∈ rules := List.mem_of_getElem? (mem_hitsOf.mp listed).1
    exact ⟨leads_iff_covers whole' ((written _ mem).ne_empty owned') outer,
      longest other.rule mem b owned'⟩

/-- The first rule owns the longest path to the scope, the second one the longest alternative that
covers it. Both are listed, and the second one decides. -/
theorem deciding_rule_explained_nested :
    let nested : Rule :=
      ⟨some "nested", .parse "source string.quoted.c, string", ⟨some "#111", none, {}⟩⟩
    let plain : Rule := ⟨some "plain", .ofList [" string.quoted ", ""], ⟨some "#222", none, {}⟩⟩
    let rules := [nested, plain]
    let m : Matcher := { rules }
    (∀ r ∈ rules, r.selector.Written) ∧
    (∀ s ∈ ["source.c"] ++ "string.quoted.c" :: [], Unbroken s) ∧
      m.Reachable rules ∧ (m.best "string.quoted.c").1 = some ⟨1, plain⟩ ∧
      ∃ hits, (explain rules (["source.c"] ++ "string.quoted.c" :: []))[["source.c"].length]? =
          some ⟨"string.quoted.c", hits⟩ ∧ ⟨1, plain⟩ ∈ hits ∧
        ∃ a ∈ plain.selector.alternatives, Scope.Covers a "string.quoted.c" ∧
          contest "string.quoted.c" 0 none rules = some ⟨⟨1, plain⟩, byteSize a⟩ ∧
          ∀ other ∈ hits, ∀ b ∈ other.rule.selector.alternatives, Unbroken b →
            (Leads b "string.quoted.c" ["source.c"] ↔ Scope.Covers b "string.quoted.c") ∧
              (Scope.Covers b "string.quoted.c" → byteSize b ≤ byteSize a) := by
  intro nested plain rules m
  have written : ∀ r ∈ rules, r.selector.Written := by
    simp only [rules, List.forall_mem_cons, List.not_mem_nil, false_implies, implies_true, and_true]
    exact ⟨.inl ⟨_, rfl⟩, .inr ⟨_, rfl⟩⟩
  have unbroken : ∀ s ∈ ["source.c"] ++ "string.quoted.c" :: [], Unbroken s := by decide
  have decided : (m.best "string.quoted.c").1 = some ⟨1, plain⟩ := by decide
  exact ⟨written, unbroken, .fresh, decided,
    deciding_rule_explained written unbroken .fresh decided⟩

end Theme

end Highlight
