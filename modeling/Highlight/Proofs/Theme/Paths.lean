import Highlight.Proofs.Theme.Deciding
import Highlight.Theme.Explanation
import Mathlib.Data.List.Forall2
import Mathlib.Data.List.NodupEquivFin

/-!
# Paths find every way to their scope

An alternative is a path of words. It leads to a scope when its last word covers the scope and its
other words can be assigned to scopes around it, each to one that it covers, at rising positions
(`Leads`). Many assignments may be possible; the walk tries one only. It goes outwards and gives
each scope to the word that is waiting, if that word covers it.

Nothing is lost by this (`coverInOrder_iff`): where an assignment gives such a scope to no word, the
waiting word can be moved onto it, and the words behind it keep their places. Hence the explanation
of a chain lists, for each scope, the rules that own a path which leads there (`explain_getElem?`,
`mem_hitsOf`).
-/

namespace Highlight.Theme

/-! ## Assignments -/

/-- The words can be assigned to scopes that they cover, at rising positions. -/
def Assignable (words scopes : List String) : Prop :=
  ∃ place : Fin words.length → Fin scopes.length, StrictMono place ∧
    ∀ i, Scope.Covers (words.get i) (scopes.get (place i))

/-- The path leads to the scope inside the given ones, which are listed from the outermost
inwards. -/
def Leads (path scope : String) (around : List String) : Prop :=
  ∃ outer last,
    Unicode.words path = outer ++ [last] ∧ Scope.Covers last scope ∧ Assignable outer around

/-- An assignment at rising positions picks some of the scopes in order. -/
theorem assignable_iff {words scopes : List String} :
    Assignable words scopes ↔ List.SublistForall₂ Scope.Covers words scopes := by
  rw [List.sublistForall₂_iff]
  constructor
  · rintro ⟨place, rising, covers⟩
    refine ⟨List.ofFn fun i => scopes.get (place i), ?_, ?_⟩
    · refine List.forall₂_iff_get.mpr ⟨by simp, fun i low high => ?_⟩
      simpa using covers ⟨i, low⟩
    · let back := Fin.castOrderIso (List.length_ofFn (f := fun i => scopes.get (place i)))
      refine List.sublist_iff_exists_fin_orderEmbedding_get_eq.mpr
        ⟨back.toOrderEmbedding.trans (OrderEmbedding.ofStrictMono place rising), fun i => ?_⟩
      exact List.get_ofFn _ i
  · rintro ⟨picked, covers, sub⟩
    obtain ⟨size, covers⟩ := List.forall₂_iff_get.mp covers
    obtain ⟨place, same⟩ := List.sublist_iff_exists_fin_orderEmbedding_get_eq.mp sub
    refine ⟨fun i => place (i.cast size), place.strictMono.comp (Fin.cast_strictMono size),
      fun i => ?_⟩
    rw [← same]
    exact covers i i.isLt (i.cast size).isLt

theorem sublistForall₂_reverse_iff {words scopes : List String} :
    List.SublistForall₂ Scope.Covers words.reverse scopes.reverse ↔
      List.SublistForall₂ Scope.Covers words scopes := by
  rw [List.sublistForall₂_iff, List.sublistForall₂_iff]
  constructor
  · rintro ⟨picked, covers, sub⟩
    exact ⟨picked.reverse, by simpa using List.forall₂_reverse_iff.mpr covers,
      by simpa using sub.reverse⟩
  · rintro ⟨picked, covers, sub⟩
    exact ⟨picked.reverse, List.forall₂_reverse_iff.mpr covers, sub.reverse⟩

/-! ## The walk -/

theorem sublistForall₂_of_cons {word : String} {words scopes : List String}
    (picks : List.SublistForall₂ Scope.Covers (word :: words) scopes) :
    List.SublistForall₂ Scope.Covers words scopes := by
  obtain ⟨picked, covers, sub⟩ := List.sublistForall₂_iff.mp picks
  cases covers with
  | cons _ rest =>
    exact List.sublistForall₂_iff.mpr ⟨_, rest, (List.sublist_cons_self _ _).trans sub⟩

/-- Giving each scope to the waiting word if it covers it misses no assignment. -/
theorem coverInOrder_iff (words scopes : List String) :
    coverInOrder words scopes ↔ List.SublistForall₂ Scope.Covers words scopes := by
  fun_induction coverInOrder words scopes with
  | case1 scopes => exact iff_of_true rfl .nil
  | case2 word words => exact iff_of_false Bool.false_ne_true (fun picks => nomatch picks)
  | case3 word words scope scopes covers ih =>
    rw [ih]
    constructor
    · exact .cons (Scope.covers_iff.mp covers)
    · intro picks
      -- an assignment that passes over this scope is exchanged for one that uses it
      cases picks with
      | cons _ rest => exact rest
      | cons_right rest => exact sublistForall₂_of_cons rest
  | case4 word words scope scopes misses ih =>
    rw [ih]
    constructor
    · exact .cons_right
    · intro picks
      cases picks with
      | cons covers _ => exact absurd (Scope.covers_iff.mpr covers) misses
      | cons_right rest => exact rest

theorem pathReaches_iff {path scope : String} {around : List String} :
    pathReaches path scope around.reverse ↔ Leads path scope around := by
  have assigned (outer : List String) : coverInOrder outer.reverse around.reverse ↔
      Assignable outer around := by
    rw [coverInOrder_iff, sublistForall₂_reverse_iff, assignable_iff]
  unfold pathReaches Leads
  split
  next none =>
    have none : Unicode.words path = [] := List.reverse_eq_nil_iff.mp none
    simp [none]
  next last outer split =>
    have split : Unicode.words path = outer.reverse ++ [last] := by
      simpa using congrArg List.reverse split
    rw [Bool.and_eq_true, Scope.covers_iff, ← outer.reverse_reverse, assigned]
    constructor
    · rintro ⟨covers, assigned⟩
      exact ⟨_, _, split, covers, assigned⟩
    · rintro ⟨outer', last', split', covers, assigned⟩
      obtain ⟨rfl, same⟩ := List.append_inj' (split.symm.trans split') rfl
      obtain rfl := List.singleton_inj.mp same
      exact ⟨covers, assigned⟩

instance (path scope : String) (around : List String) : Decidable (Leads path scope around) :=
  decidable_of_iff _ pathReaches_iff

/-! ## The rules that are listed -/

theorem mem_hitsOf {rules : List Rule} {scope : String} {around : List String} {hit : RuleHit} :
    hit ∈ hitsOf rules scope around.reverse ↔
      rules[hit.index]? = some hit.rule ∧
        ∃ path ∈ hit.rule.selector.alternatives, Leads path scope around := by
  rw [hitsOf, List.mem_filter, List.mem_map, List.any_eq_true]
  simp only [pathReaches_iff]
  refine and_congr_left' ?_
  rw [← List.mk_mem_zipIdx_iff_getElem?]
  constructor
  · rintro ⟨⟨rule, index⟩, mem, rfl⟩
    exact mem
  · exact fun mem => ⟨_, mem, rfl⟩

/-- The rules are listed in the order of the theme, each of them once. -/
theorem hitsOf_pairwise (rules : List Rule) (scope : String) (around : List String) :
    (hitsOf rules scope around).Pairwise (·.index < ·.index) := by
  refine List.Pairwise.filter _ (List.pairwise_map.mpr ?_)
  have rising : (rules.zipIdx.map Prod.snd).Pairwise (· < ·) := by
    rw [List.zipIdx_map_snd]
    exact List.pairwise_lt_range'
  exact List.pairwise_map.mp rising

theorem explainFrom_length (rules : List Rule) (around chain : List String) :
    (explainFrom rules around chain).length = chain.length := by
  induction chain generalizing around with
  | nil => rfl
  | cons scope chain ih => rw [explainFrom, List.length_cons, ih, List.length_cons]

/-- A scope is explained inside the scopes before it. -/
theorem explainFrom_getElem? (rules : List Rule) (scope : String)
    (around outer inner : List String) :
    (explainFrom rules around (outer ++ scope :: inner))[outer.length]? =
      some ⟨scope, hitsOf rules scope (outer.reverse ++ around)⟩ := by
  induction outer generalizing around with
  | nil => rfl
  | cons first outer ih =>
    rw [List.cons_append, explainFrom, List.length_cons, List.getElem?_cons_succ, ih]
    simp

theorem explain_getElem? (rules : List Rule) (scope : String) (outer inner : List String) :
    (explain rules (outer ++ scope :: inner))[outer.length]? =
      some ⟨scope, hitsOf rules scope outer.reverse⟩ := by
  rw [explain, explainFrom_getElem?, List.append_nil]

/-- A path reaches a scope inside others exactly where it leads there. The explanation of a chain
has an entry for each of its scopes, which lists the rules of the theme that own a path which leads
to the scope inside those before it, these rules alone, in the order of the theme and each of them
once. -/
theorem explain_lists_leading_rules (path : String) (rules : List Rule) (scope : String)
    (outer inner : List String) :
    (pathReaches path scope outer.reverse ↔ Leads path scope outer) ∧
      (explain rules (outer ++ scope :: inner)).length = (outer ++ scope :: inner).length ∧
      ∃ hits, (explain rules (outer ++ scope :: inner))[outer.length]? = some ⟨scope, hits⟩ ∧
        hits.Pairwise (·.index < ·.index) ∧
        ∀ hit, hit ∈ hits ↔ rules[hit.index]? = some hit.rule ∧
          ∃ alternative ∈ hit.rule.selector.alternatives, Leads alternative scope outer :=
  ⟨pathReaches_iff, explainFrom_length _ _ _, _, explain_getElem? rules scope outer inner,
    hitsOf_pairwise _ _ _,
    fun _ => mem_hitsOf⟩

end Highlight.Theme
