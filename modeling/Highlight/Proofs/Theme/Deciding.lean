import Highlight.Theme.Matching
import Mathlib.Data.List.MinMax

/-!
# The rule that decides a scope is the longest, and of equally long ones the first

`Scope.Covers` and `Decides` say what the contest of a theme's rules is about without running it: a
name covers a scope that is the name or goes on after it with a dot, and the deciding rule is the
first of those that own a covering alternative of the greatest byte length.

Entering the rules one by one is entering their alternatives one by one (`contest_eq_foldl`), and
the running best of that is the `argmax` of the covering ones by length, which keeps the first of
equals (`bestRule?_eq_argmax`). Alternatives are entered by rising position of their rules, so the
first of them belongs to the first rule.
-/

namespace Highlight

namespace Scope

/-- The scope is the name, or goes on after it with a dot. -/
def Covers (name scope : String) : Prop := scope = name ∨ ∃ rest, scope = name ++ "." ++ rest

theorem coversChars_iff {name scope : List Char} :
    coversChars name scope ↔ scope = name ∨ ∃ rest, scope = name ++ '.' :: rest := by
  induction name generalizing scope with
  | nil => cases scope <;> simp [coversChars]
  | cons a name ih =>
    cases scope with
    | nil => simp [coversChars]
    | cons b scope =>
      simp only [coversChars, Bool.and_eq_true, beq_iff_eq, ih, List.cons_append, List.cons.injEq]
      constructor
      · rintro ⟨rfl, same | ⟨rest, longer⟩⟩
        · exact .inl ⟨rfl, same⟩
        · exact .inr ⟨rest, rfl, longer⟩
      · rintro (⟨rfl, same⟩ | ⟨rest, rfl, longer⟩)
        · exact ⟨rfl, .inl same⟩
        · exact ⟨rfl, .inr ⟨rest, longer⟩⟩

theorem covers_iff {name scope : String} : covers name scope ↔ Covers name scope := by
  rw [covers, coversChars_iff, Covers]
  constructor
  · rintro (same | ⟨rest, longer⟩)
    · exact .inl (String.toList_inj.mp same)
    · exact .inr ⟨String.ofList rest, String.toList_inj.mp (by simp [longer])⟩
  · rintro (rfl | ⟨rest, rfl⟩)
    · exact .inl rfl
    · exact .inr ⟨rest.toList, by simp⟩

instance (name scope : String) : Decidable (Covers name scope) := decidable_of_iff _ covers_iff

end Scope

namespace Theme

/-! ## What the deciding rule is -/

/-- Some rule has an alternative that covers the scope. -/
def Touches (rules : List Rule) (scope : String) : Prop :=
  ∃ r ∈ rules, ∃ a ∈ r.selector.alternatives, Scope.Covers a scope

instance (rules : List Rule) (scope : String) : Decidable (Touches rules scope) :=
  inferInstanceAs (Decidable (∃ r ∈ rules, ∃ a ∈ r.selector.alternatives, Scope.Covers a scope))

/-- The alternative covers the scope, and no alternative of any rule that does is longer. -/
def Longest (rules : List Rule) (scope alternative : String) : Prop :=
  Scope.Covers alternative scope ∧
    ∀ r ∈ rules, ∀ a ∈ r.selector.alternatives,
      Scope.Covers a scope → byteSize a ≤ byteSize alternative

/-- The hit is the first rule that owns a longest alternative. -/
structure Decides (rules : List Rule) (scope : String) (hit : RuleHit) : Prop where
  /-- The rule stands at its position. -/
  placed : rules[hit.index]? = some hit.rule
  /-- It owns a longest alternative. -/
  owns : ∃ a ∈ hit.rule.selector.alternatives, Longest rules scope a
  /-- No rule before it owns one. -/
  first : ∀ (i : Nat) (r : Rule),
    rules[i]? = some r → (∃ a ∈ r.selector.alternatives, Longest rules scope a) →
    hit.index ≤ i

theorem Decides.touches {rules : List Rule} {scope : String} {hit : RuleHit}
    (decides : Decides rules scope hit) :
    Touches rules scope := by
  obtain ⟨a, owned, longest⟩ := decides.owns
  exact ⟨hit.rule, List.mem_of_getElem? decides.placed, a, owned, longest.1⟩

/-- At most one rule decides a scope. -/
theorem Decides.unique {rules : List Rule} {scope : String} {hit hit' : RuleHit}
    (decides : Decides rules scope hit) (decides' : Decides rules scope hit') : hit = hit' := by
  have low := decides.first _ _ decides'.placed decides'.owns
  have high := decides'.first _ _ decides.placed decides.owns
  obtain ⟨i, r⟩ := hit
  obtain ⟨j, r'⟩ := hit'
  obtain rfl : i = j := Nat.le_antisymm low high
  have same : some r = some r' := decides.placed.symm.trans decides'.placed
  rw [Option.some.inj same]

/-! ## The contest as a fold over alternatives -/

/-- An alternative with the hit that it would make. -/
structure Entry where
  hit : RuleHit
  alternative : String
deriving DecidableEq

namespace Entry

/-- Length of the alternative in bytes. -/
def size (e : Entry) : Nat := byteSize e.alternative

/-- The contest that the entry leads. -/
def lead (e : Entry) : Contest := ⟨e.hit, e.size⟩

end Entry

/-- The alternatives of the rules from position `i` on, in the order in which they are entered. -/
def entries : Nat → List Rule → List Entry
  | _, [] => []
  | i, r :: rs => r.selector.alternatives.map (Entry.mk ⟨i, r⟩) ++ entries (i + 1) rs

theorem mem_entries {i : Nat} {rules : List Rule} {e : Entry} :
    e ∈ entries i rules ↔
      i ≤ e.hit.index ∧ rules[e.hit.index - i]? = some e.hit.rule ∧
        e.alternative ∈ e.hit.rule.selector.alternatives := by
  induction rules generalizing i with
  | nil => simp [entries]
  | cons r rs ih =>
    rw [entries, List.mem_append, ih, List.mem_map]
    constructor
    · rintro (⟨a, owned, rfl⟩ | ⟨low, found, owned⟩)
      · exact ⟨Nat.le_refl _, by simp, owned⟩
      · have later : e.hit.index - i = (e.hit.index - (i + 1)) + 1 := by omega
        exact ⟨by omega, by rw [later, List.getElem?_cons_succ, found], owned⟩
    · rintro ⟨low, found, owned⟩
      obtain ⟨⟨j, r'⟩, a⟩ := e
      dsimp only at low found owned
      by_cases here : j = i
      · subst here
        obtain rfl : r = r' := by simpa using found
        exact .inl ⟨a, owned, rfl⟩
      · have later : j - i = (j - (i + 1)) + 1 := by omega
        rw [later, List.getElem?_cons_succ] at found
        exact .inr ⟨Nat.lt_of_le_of_ne low (Ne.symm here), found, owned⟩

/-- Alternatives are entered by rising position of their rules. -/
theorem entries_pairwise (i : Nat) (rules : List Rule) :
    (entries i rules).Pairwise fun e e' => e.hit.index ≤ e'.hit.index := by
  induction rules generalizing i with
  | nil => exact .nil
  | cons r rs ih =>
    refine List.pairwise_append.mpr ⟨?_, ih (i + 1), ?_⟩
    · exact List.pairwise_map.mpr (List.pairwise_of_forall fun _ _ => Nat.le_refl i)
    · intro e mem e' mem'
      obtain ⟨a, _, rfl⟩ := List.mem_map.mp mem
      exact Nat.le_of_succ_le (mem_entries.mp mem').1

theorem contest_eq_foldl (scope : String) (i : Nat) (best : Option Contest) (rules : List Rule) :
    contest scope i best rules =
      (entries i rules).foldl (fun best e => enter scope e.hit best e.alternative) best := by
  induction rules generalizing i best with
  | nil => rfl
  | cons r rs ih => rw [contest, ih, entries, List.foldl_append, List.foldl_map]

/-- An entry that covers the scope takes the lead where `argmax` would take it. -/
theorem enter_of_covers {scope : String} {e : Entry} (covers : Scope.covers e.alternative scope)
    (best : Option Entry) :
    enter scope e.hit (best.map Entry.lead) e.alternative =
      (List.argAux (fun e e' => e'.size < e.size) best e).map Entry.lead := by
  unfold enter
  rw [if_pos covers]
  cases best with
  | none => rfl
  | some b =>
    show (if b.size < e.size then some e.lead else some b.lead) =
      (if b.size < e.size then some e else some b).map Entry.lead
    split <;> rfl

theorem enter_of_not_covers {scope : String} {e : Entry}
    (misses : ¬ Scope.covers e.alternative scope) (best : Option Contest) :
    enter scope e.hit best e.alternative = best := by
  unfold enter
  exact if_neg misses

/-- The running best of the contest is that of `argmax` over the entries that cover the scope. -/
theorem foldl_enter (scope : String) (es : List Entry) (best : Option Entry) :
    es.foldl (fun best e => enter scope e.hit best e.alternative) (best.map Entry.lead) =
      ((es.filter fun e => Scope.covers e.alternative scope).foldl
        (List.argAux fun e e' => e'.size < e.size) best).map Entry.lead := by
  induction es generalizing best with
  | nil => rfl
  | cons e es ih =>
    rw [List.foldl_cons, List.filter_cons]
    split
    next covers => rw [enter_of_covers covers, ih, List.foldl_cons]
    next misses => rw [enter_of_not_covers misses, ih]

/-- The entries that cover a scope, in the order of the contest. -/
def candidates (rules : List Rule) (scope : String) : List Entry :=
  (entries 0 rules).filter fun e => Scope.covers e.alternative scope

theorem mem_candidates {rules : List Rule} {scope : String} {e : Entry} :
    e ∈ candidates rules scope ↔ rules[e.hit.index]? = some e.hit.rule ∧
      e.alternative ∈ e.hit.rule.selector.alternatives ∧ Scope.Covers e.alternative scope := by
  rw [candidates, List.mem_filter, mem_entries, Scope.covers_iff]
  simp [and_assoc]

theorem contest_eq_argmax (rules : List Rule) (scope : String) :
    contest scope 0 none rules = ((candidates rules scope).argmax Entry.size).map Entry.lead := by
  have run := foldl_enter scope (entries 0 rules) none
  rw [Option.map_none] at run
  rw [contest_eq_foldl, run]
  rfl

theorem bestRule?_eq_argmax (rules : List Rule) (scope : String) :
    bestRule? rules scope = ((candidates rules scope).argmax Entry.size).map Entry.hit := by
  rw [bestRule?, contest_eq_argmax, Option.map_map]
  rfl

/-! ## The contest finds the deciding rule -/

theorem bestRule?_eq_none_iff {rules : List Rule} {scope : String} :
    bestRule? rules scope = none ↔ ¬ Touches rules scope := by
  rw [bestRule?_eq_argmax, Option.map_eq_none_iff, List.argmax_eq_none,
    List.eq_nil_iff_forall_not_mem]
  constructor
  · rintro none ⟨r, mem, a, owned, covers⟩
    obtain ⟨i, found⟩ := List.getElem?_of_mem mem
    exact none ⟨⟨i, r⟩, a⟩ (mem_candidates.mpr ⟨found, owned, covers⟩)
  · intro untouched e mem
    obtain ⟨found, owned, covers⟩ := mem_candidates.mp mem
    exact untouched ⟨e.hit.rule, List.mem_of_getElem? found, e.alternative, owned, covers⟩

/-- What `argmax` picks belongs to the first rule with an alternative as long. -/
theorem index_le_of_argmax {rules : List Rule} {scope : String} {e e' : Entry}
    (best : e ∈ (candidates rules scope).argmax Entry.size) (mem : e' ∈ candidates rules scope)
    (long : e.size ≤ e'.size) : e.hit.index ≤ e'.hit.index := by
  have ordered : (candidates rules scope).Pairwise fun e e' => e.hit.index ≤ e'.hit.index :=
    (entries_pairwise 0 rules).filter _
  have low := List.idxOf_lt_length_of_mem (List.argmax_mem best)
  have high := List.idxOf_lt_length_of_mem mem
  rcases Nat.lt_or_eq_of_le (List.index_of_argmax best mem long) with less | same
  · have sorted := List.pairwise_iff_getElem.mp ordered _ _ low high less
    rwa [List.getElem_idxOf, List.getElem_idxOf] at sorted
  · rw [(List.idxOf_inj (List.argmax_mem best)).mp same]

theorem longest_of_argmax {rules : List Rule} {scope : String} {e : Entry}
    (best : e ∈ (candidates rules scope).argmax Entry.size) :
    Longest rules scope e.alternative := by
  refine ⟨(mem_candidates.mp (List.argmax_mem best)).2.2, ?_⟩
  intro r mem a owned covers
  obtain ⟨i, standing⟩ := List.getElem?_of_mem mem
  have entered : ⟨⟨i, r⟩, a⟩ ∈ candidates rules scope :=
    mem_candidates.mpr ⟨standing, owned, covers⟩
  have shorter : Entry.size ⟨⟨i, r⟩, a⟩ ≤ e.size := List.le_of_mem_argmax entered best
  exact shorter

theorem decides_of_bestRule? {rules : List Rule} {scope : String} {hit : RuleHit}
    (best : bestRule? rules scope = some hit) : Decides rules scope hit := by
  rw [bestRule?_eq_argmax] at best
  obtain ⟨e, found, rfl⟩ := Option.map_eq_some_iff.mp best
  obtain ⟨placed, owned, covers⟩ := mem_candidates.mp (List.argmax_mem found)
  refine ⟨placed, ⟨e.alternative, owned, longest_of_argmax found⟩, ?_⟩
  rintro i r standing ⟨a, owned', longest'⟩
  have entered : ⟨⟨i, r⟩, a⟩ ∈ candidates rules scope :=
    mem_candidates.mpr ⟨standing, owned', longest'.1⟩
  exact index_le_of_argmax found entered
    (longest'.2 e.hit.rule (List.mem_of_getElem? placed) e.alternative owned covers)

/-- The contest finds the rule that decides the scope, and nothing else. -/
theorem bestRule?_eq_some_iff {rules : List Rule} {scope : String} {hit : RuleHit} :
    bestRule? rules scope = some hit ↔ Decides rules scope hit := by
  refine ⟨decides_of_bestRule?, ?_⟩
  intro decides
  cases found : bestRule? rules scope with
  | none => exact absurd decides.touches (bestRule?_eq_none_iff.mp found)
  | some hit' => rw [(decides_of_bestRule? found).unique decides]

end Theme

end Highlight
