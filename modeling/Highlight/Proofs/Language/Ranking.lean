import Highlight.Language.Basic
import Highlight.Proofs.Regex.Searches
import Mathlib.Data.List.Induction

/-!
# The order in which rules are tried

A language is built by adding constructs and pattern rules in any order. Which rule takes over at a
place depends on that order in part only: constructs go before pattern rules and pattern rules
before those of lower priority, and only among equals the one added first comes first. `Precedes`
says so of rules numbered as they were added.

Adding a rule puts it behind all that it does not outrank (`rules_addRule`): sorting sorted rules
with a new one behind them only moves that one (`exists_mergeSort_concat`). So the rules of a
language are tried in this order (`exists_ranking`), and the one that takes over at a place is the
first of those that match there (`exists_first_of_ruleAt?`).

The next match is found by asking every rule for its own first match. The best so far gives way only
to one that starts before it, so the next match starts at the first place where any rule takes over,
and belongs to the rule that does (`nextMatch?_eq_some`).
-/

namespace Highlight

/-- A rule of either sort. -/
inductive LanguageRule where
  | construct (rule : Construct)
  | pattern (rule : PatternRule)

namespace LanguageRule

/-- The regex by which the rule takes over. -/
def leading : LanguageRule → Regex
  | .construct r => r.opener
  | .pattern r => r.pattern

/-- What the segments of the rule are recognised by. -/
def origin : LanguageRule → Origin
  | .construct r => .construct r
  | .pattern r => .pattern r

/-- The first rule goes before the second one, whichever was added first. -/
def Outranks : LanguageRule → LanguageRule → Prop
  | .construct _, .pattern _ => True
  | .pattern r, .pattern q => q.priority < r.priority
  | _, _ => False

/-- The first rule goes before the second one, where both are numbered as they were added. -/
def Precedes (first second : LanguageRule × Nat) : Prop :=
  first.1.Outranks second.1 ∨ ¬ second.1.Outranks first.1 ∧ first.2 < second.2

theorem origin_injective : Function.Injective origin := by
  intro a b same
  cases a <;> cases b <;> cases same <;> rfl

theorem Outranks.asymm {a b : LanguageRule} (above : a.Outranks b) : ¬ b.Outranks a := by
  cases a <;> cases b
  · exact above.elim
  · exact not_false
  · exact above.elim
  · exact Int.not_lt.mpr (Int.le_of_lt above)

theorem Precedes.not_outranks {first second : LanguageRule × Nat} (before : Precedes first second) :
    ¬ second.1.Outranks first.1 :=
  before.elim Outranks.asymm And.left

end LanguageRule

open LanguageRule (Precedes)

namespace Language

/-- Adds a rule of either sort. -/
def addRule (l : Language) : LanguageRule → Language
  | .construct r => l.addConstruct r
  | .pattern r => l.addPattern r

/-- The language with these rules only, added in order. -/
def withRules (l : Language) (added : List LanguageRule) : Language :=
  added.foldl addRule { l with constructs := [], patterns := [] }

/-- The rules of a language in the order in which they are tried. -/
def rules (l : Language) : List LanguageRule :=
  l.constructs.map .construct ++ l.patterns.map .pattern

theorem withRules_concat (l : Language) (added : List LanguageRule) (r : LanguageRule) :
    l.withRules (added ++ [r]) = (l.withRules added).addRule r := by
  simp [withRules]

section Sorting

variable {α : Type} (le : α → α → Bool) (trans : ∀ a b c, le a b → le b c → le a c)
  (total : ∀ a b, le a b || le b a)

include trans total

/-- Nothing goes before a first member that may stand before all others. -/
theorem mergeSort_cons_of_le {a : α} {l : List α} (least : ∀ b ∈ l, le a b) :
    (a :: l).mergeSort le = a :: l.mergeSort le := by
  obtain ⟨ahead, rest, whole, parts, strict⟩ := List.mergeSort_cons trans total a l
  have none : ahead = [] := List.eq_nil_iff_forall_not_mem.mpr fun b mem => by
    have listed : b ∈ l := List.mem_mergeSort.mp (parts ▸ List.mem_append_left rest mem)
    simpa [least b listed] using strict b mem
  subst none
  rw [whole, parts]
  rfl

/-- A last member that may stand behind none of the others goes before all of them. -/
theorem mergeSort_concat_of_not_le {x : α} {l : List α}
    (sorted : l.Pairwise fun a b => le a b) (under : ∀ b ∈ l, ¬ le b x) :
    (l ++ [x]).mergeSort le = x :: l := by
  induction l with
  | nil => exact List.mergeSort_singleton x
  | cons a l ih =>
    obtain ⟨above, sorted⟩ := List.pairwise_cons.mp sorted
    obtain ⟨notFirst, under⟩ := List.forall_mem_cons.mp under
    obtain ⟨ahead, rest, whole, parts, strict⟩ := List.mergeSort_cons trans total a (l ++ [x])
    have ordered := List.pairwise_mergeSort trans total (a :: (l ++ [x]))
    rw [whole] at ordered
    rw [ih sorted under] at parts
    cases ahead with
    | nil =>
      obtain rfl : x :: l = rest := parts
      exact absurd ((List.pairwise_cons.mp ordered).1 x List.mem_cons_self) notFirst
    | cons first ahead =>
      obtain ⟨rfl, others⟩ := List.cons.inj parts
      have none : ahead = [] := List.eq_nil_iff_forall_not_mem.mpr fun b mem => by
        have listed : b ∈ l := others ▸ List.mem_append_left rest mem
        simpa [above b listed] using strict b (List.mem_cons_of_mem _ mem)
      subst none
      obtain rfl : l = rest := others
      exact whole

/-- Sorting a sorted list with one more member behind it puts that member behind all that may stand
before it. -/
theorem exists_mergeSort_concat (x : α) {l : List α} (sorted : l.Pairwise fun a b => le a b) :
    ∃ front back, l = front ++ back ∧ (l ++ [x]).mergeSort le = front ++ x :: back ∧
      (∀ a ∈ front, le a x) ∧ ∀ b ∈ back, ¬ le b x := by
  induction l with
  | nil => exact ⟨[], [], rfl, List.mergeSort_singleton x, by simp, by simp⟩
  | cons a l ih =>
    obtain ⟨above, rest⟩ := List.pairwise_cons.mp sorted
    by_cases low : le a x
    · obtain ⟨front, back, rfl, merged, before, behind⟩ := ih rest
      have least : ∀ b ∈ front ++ back ++ [x], le a b := by
        simpa [or_imp, forall_and, low] using above
      refine ⟨a :: front, back, rfl, ?_, List.forall_mem_cons.mpr ⟨low, before⟩, behind⟩
      rw [List.cons_append, List.cons_append, mergeSort_cons_of_le le trans total least, merged]
    · have under : ∀ b ∈ a :: l, ¬ le b x :=
        List.forall_mem_cons.mpr ⟨low, fun b mem le_x => low (trans a b x (above b mem) le_x)⟩
      have merged := mergeSort_concat_of_not_le le trans total sorted under
      exact ⟨[], a :: l, rfl, merged, by simp, under⟩

end Sorting

/-- Among rules by falling priority, a new one stands behind those of at least its priority. -/
theorem exists_patterns_addPattern (l : Language) (rule : PatternRule)
    (falling : l.patterns.Pairwise fun a b => b.priority ≤ a.priority) :
    ∃ front back,
      l.patterns = front ++ back ∧ (l.addPattern rule).patterns = front ++ rule :: back ∧
      (∀ r ∈ front, rule.priority ≤ r.priority) ∧ ∀ r ∈ back, r.priority < rule.priority := by
  obtain ⟨front, back, split, sorted, above, under⟩ :=
    exists_mergeSort_concat (fun a b : PatternRule => b.priority ≤ a.priority)
      (by simpa using fun a b c ab bc => Int.le_trans bc ab)
      (by simpa using fun a b => Int.le_total _ _)
      rule (falling.imp decide_eq_true)
  refine ⟨front, back, split, sorted, fun r mem => of_decide_eq_true (above r mem), fun r mem => ?_⟩
  exact Int.not_le.mp fun high => under r mem (decide_eq_true high)

/-- In rules that are tried by rank, the pattern rules stand by falling priority. -/
theorem falling_patterns {l : Language} (sorted : l.rules.Pairwise fun a b => ¬ b.Outranks a) :
    l.patterns.Pairwise fun a b => b.priority ≤ a.priority :=
  (List.pairwise_map.mp (List.pairwise_append.mp sorted).2.1).imp Int.not_lt.mp

/-- A new rule stands behind all that it does not outrank. -/
theorem rules_addRule (l : Language) (r : LanguageRule)
    (sorted : l.rules.Pairwise fun a b => ¬ b.Outranks a) :
    ∃ front back, l.rules = front ++ back ∧ (l.addRule r).rules = front ++ r :: back ∧
      (∀ q ∈ front, ¬ r.Outranks q) ∧ ∀ q ∈ back, r.Outranks q := by
  cases r with
  | construct rule =>
    refine ⟨l.constructs.map .construct, l.patterns.map .pattern, rfl, ?_, ?_, ?_⟩
    · simp [rules, addRule, addConstruct]
    · intro q mem
      obtain ⟨other, -, rfl⟩ := List.mem_map.mp mem
      exact not_false
    · intro q mem
      obtain ⟨other, -, rfl⟩ := List.mem_map.mp mem
      trivial
  | pattern rule =>
    obtain ⟨front, back, split, inserted, above, under⟩ :=
      l.exists_patterns_addPattern rule (falling_patterns sorted)
    refine ⟨l.constructs.map .construct ++ front.map .pattern, back.map .pattern, ?_, ?_, ?_, ?_⟩
    · simp [rules, split]
    · rw [addRule, rules, inserted]
      simp [addPattern]
    · intro q mem
      rcases List.mem_append.mp mem with opened | found
      · obtain ⟨other, -, rfl⟩ := List.mem_map.mp opened
        exact not_false
      · obtain ⟨other, kept, rfl⟩ := List.mem_map.mp found
        exact Int.not_lt.mpr (above other kept)
    · intro q mem
      obtain ⟨other, kept, rfl⟩ := List.mem_map.mp mem
      exact under other kept

/-- The rules of a language that was built by adding rules are tried in the order of precedence. The
induction is on the rules added, the last one first. -/
theorem exists_ranking (l : Language) (added : List LanguageRule) :
    ∃ ranked : List (LanguageRule × Nat), (l.withRules added).rules = ranked.map Prod.fst ∧
      ranked.Perm added.zipIdx ∧ ranked.Pairwise Precedes := by
  induction added using List.reverseRecOn with
  | nil => exact ⟨[], rfl, .nil, .nil⟩
  | append_singleton added r ih =>
    obtain ⟨ranked, tried, perm, ordered⟩ := ih
    have sorted : (l.withRules added).rules.Pairwise fun a b => ¬ b.Outranks a := by
      rw [tried, List.pairwise_map]
      exact ordered.imp Precedes.not_outranks
    obtain ⟨front, back, split, inserted, above, under⟩ := rules_addRule _ r sorted
    obtain ⟨front', back', rfl, rfl, rfl⟩ := List.map_eq_append_iff.mp (tried.symm.trans split)
    refine ⟨front' ++ (r, added.length) :: back', ?_, ?_, ?_⟩
    · rw [withRules_concat, inserted, List.map_append, List.map_cons]
    · rw [List.zipIdx_append, Nat.zero_add]
      exact List.perm_middle.trans ((perm.cons _).trans (List.perm_append_singleton _ _).symm)
    · obtain ⟨orderedFront, orderedBack, across⟩ := List.pairwise_append.mp ordered
      refine List.pairwise_append.mpr ⟨orderedFront, List.pairwise_cons.mpr ⟨?_, orderedBack⟩, ?_⟩
      · exact fun entry mem => .inl (under _ (List.mem_map_of_mem mem))
      · intro entry mem other mem'
        rcases List.mem_cons.mp mem' with rfl | later
        · have early : entry.2 < added.length := by
            have known := perm.mem_iff.mp (List.mem_append_left back' mem)
            simpa using (List.mem_zipIdx known).2.1
          exact .inr ⟨above _ (List.mem_map_of_mem mem), early⟩
        · exact across entry mem other later

theorem sorted_rules_withRules (l : Language) (added : List LanguageRule) :
    (l.withRules added).rules.Pairwise fun a b => ¬ b.Outranks a := by
  obtain ⟨ranked, tried, -, ordered⟩ := l.exists_ranking added
  rw [tried, List.pairwise_map]
  exact ordered.imp Precedes.not_outranks

/-! ## The rule that takes over -/

/-- The first rule with a match with text at the cursor, and where that match ends. -/
def ruleAt? (l : Language) (c : Cursor) : Option (Origin × Cursor) :=
  l.rules.findSome? fun r => (r.leading.filledAt? c).map (r.origin, ·)

/-- Only rules of the language take over. -/
theorem exists_rule_of_ruleAt? {l : Language} {c stop : Cursor} {origin : Origin}
    (found : l.ruleAt? c = some (origin, stop)) :
    ∃ r ∈ l.rules, r.origin = origin ∧ r.leading.filledAt? c = some stop := by
  obtain ⟨r, mem, matched⟩ := List.exists_of_findSome?_eq_some found
  obtain ⟨_, filled, equal⟩ := Option.map_eq_some_iff.mp matched
  cases equal
  exact ⟨r, mem, rfl, filled⟩

/-- Where rules are tried in the order of their rank, no rule that matches outranks the one that
takes over. -/
theorem not_outranks_of_ruleAt? {l : Language} (sorted : l.rules.Pairwise fun a b => ¬ b.Outranks a)
    {c stop : Cursor} {r : LanguageRule} (found : l.ruleAt? c = some (r.origin, stop))
    {q : LanguageRule} (mem : q ∈ l.rules) (filled : (q.leading.filledAt? c).isSome) :
    ¬ q.Outranks r := by
  obtain ⟨front, first, back, split, matched, silent⟩ := List.findSome?_eq_some_iff.mp found
  obtain ⟨_, -, same⟩ := Option.map_eq_some_iff.mp matched
  obtain rfl := LanguageRule.origin_injective (congrArg Prod.fst same)
  rw [split] at mem sorted
  rcases List.mem_append.mp mem with early | late
  · rw [Option.map_eq_none_iff.mp (silent q early)] at filled
    cases filled
  · rcases List.mem_cons.mp late with rfl | later
    · exact fun above => above.asymm above
    · exact (List.pairwise_cons.mp (List.pairwise_append.mp sorted).2.1).1 q later

/-- The rule that takes over is the first of the added rules that match. -/
theorem exists_first_of_ruleAt? {l : Language} {added : List LanguageRule} {c stop : Cursor}
    {origin : Origin} (found : (l.withRules added).ruleAt? c = some (origin, stop)) :
    ∃ i r, added[i]? = some r ∧ r.origin = origin ∧ r.leading.filledAt? c = some stop ∧
      ∀ j q, added[j]? = some q → (q.leading.filledAt? c).isSome →
        j = i ∨ Precedes (r, i) (q, j) := by
  obtain ⟨ranked, tried, perm, ordered⟩ := l.exists_ranking added
  rw [ruleAt?, tried, List.findSome?_map] at found
  obtain ⟨front, ⟨r, i⟩, back, rfl, matched, silent⟩ := List.findSome?_eq_some_iff.mp found
  obtain ⟨_, filled, equal⟩ := Option.map_eq_some_iff.mp matched
  cases equal
  have place : (r, i) ∈ added.zipIdx := perm.mem_iff.mp (List.mem_append_right _ List.mem_cons_self)
  refine ⟨i, r, List.mk_mem_zipIdx_iff_getElem?.mp place, rfl, filled, ?_⟩
  intro j q place' filled'
  have listed := perm.mem_iff.mpr (List.mk_mem_zipIdx_iff_getElem?.mpr place')
  rcases List.mem_append.mp listed with early | late
  · have none : q.leading.filledAt? c = none := Option.map_eq_none_iff.mp (silent _ early)
    rw [none] at filled'
    cases filled'
  · rcases List.mem_cons.mp late with same | later
    · exact .inl (congrArg Prod.snd same)
    · exact .inr ((List.pairwise_cons.mp (List.pairwise_append.mp ordered).2.1).1 _ later)

theorem mem_rules_withRules {l : Language} {added : List LanguageRule} {r : LanguageRule} :
    r ∈ (l.withRules added).rules ↔ r ∈ added := by
  obtain ⟨ranked, tried, perm, -⟩ := l.exists_ranking added
  rw [tried, (perm.map Prod.fst).mem_iff, List.zipIdx_map_fst]

/-- Where no rule takes over, none matches. -/
theorem filledAt?_of_ruleAt?_eq_none {l : Language} {c : Cursor} (silent : l.ruleAt? c = none)
    {r : LanguageRule} (mem : r ∈ l.rules) : r.leading.filledAt? c = none :=
  Option.map_eq_none_iff.mp (List.findSome?_eq_none_iff.mp silent r mem)

/-- Where no rule matches, none takes over. -/
theorem ruleAt?_eq_none {l : Language} {c : Cursor}
    (silent : ∀ r ∈ l.rules, r.leading.filledAt? c = none) : l.ruleAt? c = none :=
  List.findSome?_eq_none_iff.mpr fun r mem => Option.map_eq_none_iff.mpr (silent r mem)

/-! ## The next match -/

/-- The best of the first matches of some rules. -/
def bestMatch? (rules : List LanguageRule) (c : Cursor) : Option (Origin × Found) :=
  rules.foldl (fun best r => nearer best r.origin (r.leading.searchFilled? c)) none

theorem nextMatch?_eq_bestMatch? (l : Language) (c : Cursor) :
    l.nextMatch? c = bestMatch? l.rules c := by
  rw [bestMatch?, rules, List.foldl_append, List.foldl_map, List.foldl_map]
  rfl

theorem bestMatch?_concat (rules : List LanguageRule) (r : LanguageRule) (c : Cursor) :
    bestMatch? (rules ++ [r]) c =
      nearer (bestMatch? rules c) r.origin (r.leading.searchFilled? c) := by
  simp [bestMatch?]

/-- The match that is best among those of some rules: the matches of the rules before it start
later, those of the rules behind it start no earlier. -/
structure Best (rules : List LanguageRule) (c : Cursor) (origin : Origin)
    (found : Found) : Prop where
  place : ∃ front r back, rules = front ++ r :: back ∧ r.origin = origin ∧
    r.leading.searchFilled? c = some found ∧
    (∀ q ∈ front, ∀ g ∈ q.leading.searchFilled? c, found.start.offset < g.start.offset) ∧
    ∀ q ∈ back, ∀ g ∈ q.leading.searchFilled? c, found.start.offset ≤ g.start.offset

/-- No match of the rules starts before the best one. -/
theorem Best.start_le {rules : List LanguageRule} {c : Cursor} {origin : Origin} {found : Found}
    (best : Best rules c origin found) {r : LanguageRule} (mem : r ∈ rules) {f : Found}
    (searched : r.leading.searchFilled? c = some f) : found.start.offset ≤ f.start.offset := by
  obtain ⟨front, q, back, rfl, -, first, later, behind⟩ := best.place
  rcases List.mem_append.mp mem with early | late
  · exact Nat.le_of_lt (later r early f searched)
  · rcases List.mem_cons.mp late with rfl | late
    · obtain rfl := Option.some.inj (first.symm.trans searched)
      exact Nat.le_refl _
    · exact behind r late f searched

/-- A rule whose match starts before the best one takes its place. -/
theorem Best.concat_of_lt {rules : List LanguageRule} {c : Cursor} {origin : Origin} {found : Found}
    (best : Best rules c origin found) {r : LanguageRule} {f : Found}
    (searched : r.leading.searchFilled? c = some f) (nearer : f.start.offset < found.start.offset) :
    Best (rules ++ [r]) c r.origin f := by
  refine ⟨rules, r, [], rfl, rfl, searched, fun other mem g held => ?_, by simp⟩
  exact Nat.lt_of_lt_of_le nearer (best.start_le mem held)

/-- A rule whose match starts no earlier leaves the best one in its place. -/
theorem Best.concat {rules : List LanguageRule} {c : Cursor} {origin : Origin} {found : Found}
    (best : Best rules c origin found) {r : LanguageRule}
    (late : ∀ g ∈ r.leading.searchFilled? c, found.start.offset ≤ g.start.offset) :
    Best (rules ++ [r]) c origin found := by
  obtain ⟨front, q, back, rfl, same, first, later, behind⟩ := best.place
  refine ⟨front, q, back ++ [r], by simp, same, first, later, fun other mem g held => ?_⟩
  rcases List.mem_append.mp mem with known | new
  · exact behind other known g held
  · rw [List.mem_singleton.mp new] at held
    exact late g held

/-- The running best is the best match of all rules, if there is any. The induction is on the rules,
the last one first. -/
theorem bestMatch?_spec (rules : List LanguageRule) (c : Cursor) :
    (bestMatch? rules c = none ∧ ∀ r ∈ rules, r.leading.searchFilled? c = none) ∨
      ∃ origin found, bestMatch? rules c = some (origin, found) ∧ Best rules c origin found := by
  induction rules using List.reverseRecOn with
  | nil => exact .inl ⟨rfl, by simp⟩
  | append_singleton rules r ih =>
    rw [bestMatch?_concat]
    cases searched : r.leading.searchFilled? c with
    | none =>
      rcases ih with ⟨nothing, silent⟩ | ⟨origin, found, known, best⟩
      · refine .inl ⟨nothing, fun q mem => ?_⟩
        rcases List.mem_append.mp mem with known | new
        · exact silent q known
        · rw [List.mem_singleton.mp new, searched]
      · exact .inr ⟨origin, found, known, best.concat (by simp [searched])⟩
    | some f =>
      refine .inr ?_
      rcases ih with ⟨nothing, silent⟩ | ⟨origin, found, known, best⟩
      · rw [nothing]
        refine ⟨r.origin, f, rfl, rules, r, [], rfl, rfl, searched, fun q mem g held => ?_, by simp⟩
        rw [silent q mem] at held
        cases held
      · rw [known, nearer]
        by_cases near : f.start.offset < found.start.offset
        · rw [if_pos near]
          exact ⟨r.origin, f, rfl, best.concat_of_lt searched near⟩
        · rw [if_neg near]
          exact ⟨origin, found, rfl, best.concat (by simpa [searched] using near)⟩

/-- Where there is no next match, no rule takes over from there on. -/
theorem ruleAt?_of_nextMatch?_eq_none {l : Language} {c d : Cursor}
    (nothing : l.nextMatch? c = none) (reached : c.Reaches d) : l.ruleAt? d = none := by
  rw [nextMatch?_eq_bestMatch?] at nothing
  rcases bestMatch?_spec l.rules c with ⟨-, silent⟩ | ⟨origin, found, known, -⟩
  · exact ruleAt?_eq_none fun r mem =>
      Regex.filledAt?_of_searchFilled? reached (by simp [silent r mem])
  · rw [nothing] at known
    cases known

/-- The next match is that of the rule that takes over at its start, and no rule takes over before
it. -/
theorem nextMatch?_eq_some {l : Language} {c : Cursor} {origin : Origin} {found : Found}
    (next : l.nextMatch? c = some (origin, found)) :
    l.ruleAt? found.start = some (origin, found.stop) ∧
      ∀ d, c.Reaches d → d.offset < found.start.offset → l.ruleAt? d = none := by
  have ahead := (nextMatch?_forward next).1
  rw [nextMatch?_eq_bestMatch?] at next
  rcases bestMatch?_spec l.rules c with ⟨nothing, -⟩ | ⟨origin', found', known, best⟩
  · rw [nothing] at next
    cases next
  rw [known] at next
  cases next
  constructor
  · obtain ⟨front, r, back, split, rfl, searched, later, -⟩ := best.place
    have filled := (Regex.searchFilled?_eq_some searched).2
    rw [ruleAt?, split, List.findSome?_append, List.findSome?_cons, filled]
    have silent : front.findSome? (fun q => (q.leading.filledAt? found.start).map (q.origin, ·)) =
        none :=
      List.findSome?_eq_none_iff.mpr fun q mem =>
        Option.map_eq_none_iff.mpr (Regex.filledAt?_of_searchFilled? ahead (later q mem))
    rw [silent]
    rfl
  · intro d reached early
    refine ruleAt?_eq_none fun q mem => Regex.filledAt?_of_searchFilled? reached fun g held => ?_
    exact Nat.lt_of_lt_of_le early (best.start_le mem held)

/-! ## Rules that are added all at once -/

/-- Pattern rules by falling priority, and another one behind those of at least its priority. -/
def insertRanked (rules : List PatternRule) (r : PatternRule) : List PatternRule :=
  rules.takeWhile (r.priority ≤ ·.priority) ++ r :: rules.dropWhile (r.priority ≤ ·.priority)

/-- Pattern rules in the order in which they are tried. -/
def ranked (rules : List PatternRule) : List PatternRule := rules.foldl insertRanked []

theorem ranked_concat (rules : List PatternRule) (r : PatternRule) :
    ranked (rules ++ [r]) = insertRanked (ranked rules) r := by
  simp [ranked]

theorem patterns_addPattern {l : Language} (rule : PatternRule)
    (falling : l.patterns.Pairwise fun a b => b.priority ≤ a.priority) :
    (l.addPattern rule).patterns = insertRanked l.patterns rule := by
  obtain ⟨front, back, split, inserted, above, under⟩ := l.exists_patterns_addPattern rule falling
  have ahead : ∀ r ∈ front, decide (rule.priority ≤ r.priority) = true :=
    fun r mem => decide_eq_true (above r mem)
  have behind : ∀ r ∈ back, decide (rule.priority ≤ r.priority) = false :=
    fun r mem => decide_eq_false (Int.not_le.mpr (under r mem))
  rw [inserted, insertRanked, split, List.takeWhile_append_of_pos ahead,
    List.dropWhile_append_of_pos ahead]
  cases back with
  | nil => simp
  | cons r back => simp [behind r List.mem_cons_self]

/-- Constructs first and pattern rules behind them: a language keeps the former in their order and
ranks the latter. -/
theorem withRules_grouped (l : Language) (constructs : List Construct)
    (patterns : List PatternRule) :
    l.withRules (constructs.map .construct ++ patterns.map .pattern) =
      { l with constructs := constructs, patterns := ranked patterns } := by
  induction patterns using List.reverseRecOn with
  | nil =>
    rw [List.map_nil, List.append_nil]
    induction constructs using List.reverseRecOn with
    | nil => rfl
    | append_singleton constructs r ih =>
      rw [List.map_append, List.map_singleton, withRules_concat, ih]
      rfl
  | append_singleton patterns r ih =>
    have sorted := l.sorted_rules_withRules (constructs.map .construct ++ patterns.map .pattern)
    rw [ih] at sorted
    have inserted := patterns_addPattern r (falling_patterns sorted)
    rw [List.map_append, List.map_singleton, ← List.append_assoc, withRules_concat, ih,
      ranked_concat, ← inserted]
    rfl

theorem addRules_eq {l : Language} (empty : l.rules = []) (constructs : List (Option Construct))
    (patterns : List (Option PatternRule)) : l.addRules constructs patterns = { l with
      constructs := constructs.filterMap fun r => r
      patterns := ranked (patterns.filterMap fun r => r) } := by
  obtain ⟨noConstructs, noPatterns⟩ := List.append_eq_nil_iff.mp empty
  have same : { l with constructs := [], patterns := [] } = l := by
    rw [← List.map_eq_nil_iff.mp noConstructs, ← List.map_eq_nil_iff.mp noPatterns]
  rw [← withRules_grouped, withRules, same, List.foldl_append, List.foldl_map, List.foldl_map]
  rfl

theorem sorted_rules_addRules {l : Language} (empty : l.rules = [])
    {constructs : List (Option Construct)} {patterns : List (Option PatternRule)} :
    (l.addRules constructs patterns).rules.Pairwise fun a b => ¬ b.Outranks a := by
  rw [addRules_eq empty, ← withRules_grouped]
  exact sorted_rules_withRules l _

theorem mem_ranked {rules : List PatternRule} {r : PatternRule} : r ∈ ranked rules ↔ r ∈ rules := by
  have grouped := withRules_grouped (.new "" "" "") [] rules
  rw [List.map_nil, List.nil_append] at grouped
  have held : .pattern r ∈ ((new "" "" "").withRules (rules.map .pattern)).rules ↔ _ :=
    mem_rules_withRules
  simpa [grouped, Language.rules] using held

theorem mem_patterns_addRules {l : Language} (empty : l.rules = [])
    {constructs : List (Option Construct)} {patterns : List (Option PatternRule)}
    {r : PatternRule} :
    r ∈ (l.addRules constructs patterns).patterns ↔ some r ∈ patterns := by
  rw [addRules_eq empty]
  simp [mem_ranked]

theorem forall_mem_patterns_addRules {l : Language} (empty : l.rules = [])
    {constructs : List (Option Construct)} {patterns : List (Option PatternRule)}
    {P : PatternRule → Prop} : (∀ r ∈ (l.addRules constructs patterns).patterns, P r) ↔
      ∀ written ∈ patterns, ∀ r ∈ written, P r := by
  simp only [mem_patterns_addRules empty]
  constructor
  · rintro all _ mem r rfl
    exact all r mem
  · exact fun all r mem => all _ mem r rfl

end Language

end Highlight
