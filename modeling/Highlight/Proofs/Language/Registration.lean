import Highlight.Language.Registry
import Mathlib.Data.List.Induction
import Mathlib.Data.List.Nodup

/-!
# What a registry knows after any history

A registry is filled by adding languages, some of which replace earlier ones or take over their
aliases and extensions. What it then answers is said by the history alone: who was added last under
an id, who listed an alias or an extension last, and which ids came up first. `Answers` lists what
follows for every question that a registry is asked.

Its parts hold after every addition: the table of languages and the counter are read off the history
(`lookup_languages`, `nextNumber_after`), and so are the tables of aliases and extensions, which
grow in the same way (`lookup_listed`). The induction is on the languages added, the last one first.
-/

namespace Highlight.Registry

open Unicode (lowercase)

/-! ## Histories -/

/-- The registry after the languages are added in order. -/
def after (added : List Language) : Registry := added.foldl add empty

/-- The last language added under an id. -/
def lastUnder (added : List Language) (id : String) : Option Language :=
  added.reverse.find? fun l => lowercase l.id = id

/-- The last added language that has the name among those listed, up to case. -/
def lastListing (listed : Language → List String) (added : List Language) (name : String) :
    Option Language :=
  added.reverse.find? fun l => (listed l).any fun other => lowercase other = lowercase name

/-- The ids in order of first registration. -/
def firstIds (added : List Language) : List String := (added.map fun l => lowercase l.id).eraseDups

section Histories

variable (added : List Language) (l : Language)

theorem after_concat : after (added ++ [l]) = (after added).add l := by simp [after]

theorem lastUnder_concat (id : String) :
    lastUnder (added ++ [l]) id = if lowercase l.id = id then some l else lastUnder added id := by
  rw [lastUnder, List.reverse_concat, List.find?_cons]
  by_cases same : lowercase l.id = id <;> simp [same, lastUnder]

theorem lastListing_concat (listed : Language → List String) (name : String) :
    lastListing listed (added ++ [l]) name =
      if ∃ other ∈ listed l, lowercase other = lowercase name then some l
        else lastListing listed added name := by
  rw [lastListing, List.reverse_concat, List.find?_cons]
  by_cases found : ∃ other ∈ listed l, lowercase other = lowercase name
  · rw [if_pos found]
    have any : (listed l).any (fun other => lowercase other = lowercase name) = true := by
      simpa using found
    rw [any]
  · rw [if_neg found]
    have any : (listed l).any (fun other => lowercase other = lowercase name) = false := by
      simpa using found
    rw [any, lastListing]

theorem firstIds_concat : firstIds (added ++ [l]) =
    if lowercase l.id ∈ firstIds added then firstIds added
      else firstIds added ++ [lowercase l.id] := by
  rw [firstIds, firstIds, List.map_append, List.eraseDups_append, List.map_singleton,
    List.removeAll]
  by_cases old : lowercase l.id ∈ added.map fun l => lowercase l.id
  · rw [if_pos (List.mem_eraseDups.mpr old), List.filter_cons_of_neg (by simpa using old)]
    simp
  · rw [if_neg (mt List.mem_eraseDups.mp old), List.filter_cons_of_pos (by simpa using old)]
    rfl

end Histories

theorem mem_firstIds {added : List Language} {id : String} :
    id ∈ firstIds added ↔ ∃ l ∈ added, lowercase l.id = id := by
  rw [firstIds, List.mem_eraseDups, List.mem_map]

theorem nodup_firstIds (added : List Language) : (firstIds added).Nodup := by
  induction added using List.reverseRecOn with
  | nil => exact .nil
  | append_singleton added l ih =>
    rw [firstIds_concat]
    split
    next => exact ih
    next new =>
      refine List.nodup_append.mpr ⟨ih, List.nodup_singleton _, ?_⟩
      intro id mem other here same
      rw [same, List.mem_singleton.mp here] at mem
      exact new mem

theorem lastUnder_isSome_iff {added : List Language} {id : String} :
    (lastUnder added id).isSome ↔ id ∈ firstIds added := by
  rw [lastUnder, List.find?_isSome, mem_firstIds]
  simp

/-! ## The tables -/

theorem lookup_cons_eq {α : Type} (id key : String) (value : α) (entries : List (String × α)) :
    ((key, value) :: entries).lookup id = if id = key then some value else entries.lookup id := by
  rw [List.lookup_cons]
  by_cases here : id = key
  · rw [beq_iff_eq.mpr here, if_pos here]
  · rw [beq_eq_false_iff_ne.mpr here, if_neg here]

theorem lookup_put (key : String) (l : Language) (entries : List (String × Language))
    (id : String) :
    (put key l entries).lookup id = if id = key then some l else entries.lookup id := by
  induction entries with
  | nil => exact lookup_cons_eq id key l []
  | cons entry entries ih =>
    obtain ⟨other, old⟩ := entry
    rw [put, lookup_cons_eq]
    by_cases same : other = key
    · rw [if_pos same, lookup_cons_eq, same]
      split <;> rfl
    · rw [if_neg same, lookup_cons_eq, ih]
      by_cases here : id = other
      · have away : id ≠ key := fun equal => same (here.symm.trans equal)
        rw [if_pos here, if_neg away, if_pos here]
      · simp only [if_neg here]

theorem keys_put (key : String) (l : Language) (entries : List (String × Language)) :
    (put key l entries).map Prod.fst =
      if key ∈ entries.map Prod.fst then entries.map Prod.fst
        else entries.map Prod.fst ++ [key] := by
  induction entries with
  | nil => rfl
  | cons entry entries ih =>
    obtain ⟨other, old⟩ := entry
    rw [put]
    by_cases same : other = key
    · rw [if_pos same, if_pos (by simp [same])]
      rfl
    · have away : key ≠ other := fun equal => same equal.symm
      rw [if_neg same, List.map_cons, ih, List.map_cons]
      by_cases mem : key ∈ entries.map Prod.fst
      · rw [if_pos mem, if_pos (List.mem_cons_of_mem _ mem)]
      · rw [if_neg mem, if_neg (List.not_mem_cons_of_ne_of_not_mem away mem), List.cons_append]

theorem isSome_lookup_iff {α : Type} {entries : List (String × α)} {id : String} :
    (entries.lookup id).isSome ↔ id ∈ entries.map Prod.fst := by
  induction entries with
  | nil => simp
  | cons entry entries ih =>
    obtain ⟨key, value⟩ := entry
    rw [lookup_cons_eq, List.map_cons, List.mem_cons, ← ih]
    by_cases here : id = key <;> simp [here]

/-- All names of a list lead to the same id. -/
theorem lookup_leading (names : List String) (id key : String) :
    ((names.map fun name => (lowercase name, id)).reverse).lookup key =
      if ∃ name ∈ names, lowercase name = key then some id else none := by
  induction names with
  | nil => simp
  | cons name names ih =>
    rw [List.map_cons, List.reverse_cons, List.lookup_append, ih, lookup_cons_eq]
    by_cases later : ∃ other ∈ names, lowercase other = key
    · rw [if_pos later, if_pos (List.exists_mem_cons_of_exists later), Option.some_or]
    · rw [if_neg later, Option.none_or]
      by_cases here : key = lowercase name
      · rw [if_pos here, if_pos ⟨name, List.mem_cons_self, here.symm⟩]
      · rw [if_neg here, if_neg, List.lookup_nil]
        rintro ⟨other, mem, same⟩
        rcases List.mem_cons.mp mem with rfl | mem
        · exact here same.symm
        · exact later ⟨other, mem, same⟩

section Tables

variable (added : List Language)

theorem keys_after : (after added).languages.map Prod.fst = firstIds added := by
  induction added using List.reverseRecOn with
  | nil => rfl
  | append_singleton added l ih => rw [after_concat, add, keys_put, ih, firstIds_concat]

theorem isSome_lookup_languages (id : String) :
    ((after added).languages.lookup id).isSome ↔ id ∈ firstIds added := by
  rw [isSome_lookup_iff, keys_after]

theorem nextNumber_after : (after added).nextNumber = (firstIds added).length + 1 := by
  induction added using List.reverseRecOn with
  | nil => rfl
  | append_singleton added l ih =>
    rw [after_concat, add, firstIds_concat]
    by_cases old : lowercase l.id ∈ firstIds added
    · rw [if_pos old, if_pos ((isSome_lookup_languages added _).mpr old), ih]
    · rw [if_neg old, if_neg (mt (isSome_lookup_languages added _).mp old), ih, List.length_append,
        List.length_singleton]

/-- A language with the number that its id has in the history. -/
def numbered (id : String) (l : Language) : Language :=
  { l with number := (firstIds added).idxOf id + 1 }

/-- An id has the same number in every longer history. -/
theorem idxOf_firstIds_append (more : List Language) {id : String} (mem : id ∈ firstIds added) :
    (firstIds (added ++ more)).idxOf id = (firstIds added).idxOf id := by
  rw [firstIds, List.map_append, List.eraseDups_append]
  exact List.idxOf_append_of_mem mem

theorem lookup_languages (id : String) :
    (after added).languages.lookup id = (lastUnder added id).map (numbered added id) := by
  induction added using List.reverseRecOn with
  | nil => rfl
  | append_singleton added l ih =>
    rw [after_concat, add, lookup_put, lastUnder_concat]
    by_cases here : id = lowercase l.id
    · subst here
      rw [if_pos rfl, if_pos rfl, Option.map_some, numbered, ih]
      -- a known id keeps the number that it has, a new one takes the next
      by_cases old : lowercase l.id ∈ firstIds added
      · obtain ⟨known, found⟩ := Option.isSome_iff_exists.mp (lastUnder_isSome_iff.mpr old)
        rw [found, idxOf_firstIds_append added [l] old]
        rfl
      · have none : lastUnder added (lowercase l.id) = none :=
          Option.not_isSome_iff_eq_none.mp (mt lastUnder_isSome_iff.mp old)
        have last : (firstIds (added ++ [l])).idxOf (lowercase l.id) = (firstIds added).length := by
          rw [firstIds_concat, if_neg old, List.idxOf_append_of_notMem old, List.idxOf_cons_self,
            Nat.add_zero]
        rw [none, last, nextNumber_after]
        rfl
    · rw [if_neg here, if_neg (Ne.symm here), ih]
      cases known : lastUnder added id with
      | none => rfl
      | some other =>
        have mem := lastUnder_isSome_iff.mp (Option.isSome_of_mem known)
        rw [Option.map_some, Option.map_some, numbered, numbered,
          idxOf_firstIds_append added [l] mem]

/-- A table that the names listed by a language enter when it is added leads a name to the last
language listing it. -/
theorem lookup_listed (table : Registry → List (String × String)) (listed : Language → List String)
    (blank : table empty = [])
    (grows : ∀ (r : Registry) (l : Language),
      table (r.add l) =
        ((listed l).map fun name => (lowercase name, lowercase l.id)).reverse ++ table r)
    (name : String) :
    (table (after added)).lookup (lowercase name) =
      (lastListing listed added name).map fun l => lowercase l.id := by
  induction added using List.reverseRecOn with
  | nil =>
    rw [after, List.foldl_nil, blank]
    rfl
  | append_singleton added l ih =>
    rw [after_concat, grows, List.lookup_append, lookup_leading, lastListing_concat, ih]
    split
    next => rfl
    next => rfl

end Tables

/-! ## Answers -/

section Answers

variable {added : List Language}

theorem mem_of_lastListing {listed : Language → List String} {name : String} {l : Language}
    (last : lastListing listed added name = some l) : lowercase l.id ∈ firstIds added :=
  mem_firstIds.mpr ⟨l, List.mem_reverse.mp (List.mem_of_find?_eq_some last), rfl⟩

theorem resolve?_after (name : String) : (after added).resolve? name =
    if ∃ l ∈ added, lowercase l.id = lowercase name then some (lowercase name)
    else (lastListing (·.aliases) added name).map fun l => lowercase l.id := by
  have registered := isSome_lookup_languages added (lowercase name)
  rw [mem_firstIds] at registered
  rw [resolve?, ← lookup_listed added (·.aliases) (·.aliases) rfl (fun _ _ => rfl)]
  simp only [registered]

theorem detect?_after (path : String) :
    (after added).detect? path = (Path.extension? path).bind fun extension =>
    (lastListing (·.extensions) added extension).map fun l => lowercase l.id := by
  simp only [detect?, lookup_listed added (·.extensions) (·.extensions) rfl (fun _ _ => rfl)]

/-- A name leads to registered ids only. -/
theorem mem_of_resolve? {name id : String} (resolved : (after added).resolve? name = some id) :
    id ∈ firstIds added := by
  rw [resolve?_after] at resolved
  split at resolved
  next registered =>
    cases resolved
    exact mem_firstIds.mpr registered
  next =>
    obtain ⟨l, last, rfl⟩ := Option.map_eq_some_iff.mp resolved
    exact mem_of_lastListing last

theorem language_after {name id : String} (resolved : (after added).resolve? name = some id) :
    ∃ l, lastUnder added id = some l ∧ (after added).language name = .ok (numbered added id l) := by
  obtain ⟨l, last⟩ :=
    Option.isSome_iff_exists.mp (lastUnder_isSome_iff.mpr (mem_of_resolve? resolved))
  refine ⟨l, last, ?_⟩
  rw [language, language?, resolved, Option.bind_some, lookup_languages, last]
  rfl

/-- A language is found under its id where no other was added under it later. -/
theorem language_of_last {front back : List Language} {l : Language}
    (last : ∀ other ∈ back, lowercase other.id ≠ lowercase l.id) :
    (after (front ++ l :: back)).language l.id =
      .ok (numbered (front ++ l :: back) (lowercase l.id) l) := by
  have resolved : (after (front ++ l :: back)).resolve? l.id = some (lowercase l.id) := by
    rw [resolve?_after, if_pos ⟨l, List.mem_append_right _ List.mem_cons_self, rfl⟩]
  have here : lastUnder (front ++ l :: back) (lowercase l.id) = some l := by
    have passed : back.reverse.find? (fun other => lowercase other.id = lowercase l.id) = none :=
      List.find?_eq_none.mpr fun other mem => by simpa using last other (List.mem_reverse.mp mem)
    simp [lastUnder, List.find?_append, passed]
  obtain ⟨l', found, answered⟩ := language_after resolved
  rw [answered, Option.some.inj (found.symm.trans here)]

/-- The language that was added last is found under its id. -/
theorem language_concat (added : List Language) (l : Language) :
    (after (added ++ [l])).language l.id = .ok (numbered (added ++ [l]) (lowercase l.id) l) :=
  language_of_last fun _ mem => nomatch mem

/-- Where no two languages share an id, each of them is found under its own. -/
theorem language_of_mem (distinct : (added.map fun l => lowercase l.id).Nodup) {l : Language}
    (mem : l ∈ added) :
    (after added).language l.id = .ok (numbered added (lowercase l.id) l) := by
  obtain ⟨front, back, rfl⟩ := List.append_of_mem mem
  apply language_of_last
  intro other later same
  rw [List.map_append, List.map_cons] at distinct
  have fresh := (List.nodup_cons.mp (List.nodup_append.mp distinct).2.1).1
  exact fresh (List.mem_map.mpr ⟨other, later, same⟩)

theorem language_of_unresolved {name : String} (unresolved : (after added).resolve? name = none) :
    (after added).language name = .error (.unknownLanguage name) := by
  rw [language, language?, unresolved]
  rfl

/-- The number of a language that a name leads to. -/
theorem number_eq {name id : String} {l : Language}
    (resolved : (after added).resolve? name = some id)
    (found : (after added).language name = .ok l) : l.number = (firstIds added).idxOf id + 1 := by
  obtain ⟨_, -, found'⟩ := language_after resolved
  cases found.symm.trans found'
  rfl

theorem exists_resolve? {name : String} {l : Language}
    (found : (after added).language name = .ok l) :
    ∃ id, (after added).resolve? name = some id := by
  cases resolved : (after added).resolve? name with
  | none =>
    rw [language_of_unresolved resolved] at found
    cases found
  | some id => exact ⟨id, rfl⟩

theorem mem_ids {id : String} : id ∈ (after added).ids ↔ id ∈ firstIds added := by
  rw [ids, List.mem_mergeSort, keys_after]

theorem ids_pairwise (added : List Language) : (after added).ids.Pairwise (· < ·) := by
  have sorted : (after added).ids.Pairwise fun a b => (!decide (b < a)) = true := by
    apply List.pairwise_mergeSort
    · intro a b c ab bc
      simp only [Bool.not_eq_true', decide_eq_false_iff_not, String.not_lt] at ab bc ⊢
      exact String.le_trans ab bc
    · intro a b
      simp only [Bool.or_eq_true, Bool.not_eq_true', decide_eq_false_iff_not, String.not_lt]
      exact String.le_total a b
  have nodup : (after added).ids.Nodup := by
    rw [ids, (List.mergeSort_perm _ _).nodup_iff, keys_after]
    exact nodup_firstIds added
  refine (sorted.and nodup).imp ?_
  rintro a b ⟨ordered, differ⟩
  simp only [Bool.not_eq_true', decide_eq_false_iff_not, String.not_lt] at ordered
  exact Decidable.byContradiction fun under =>
    differ (String.le_antisymm ordered (String.not_lt.mp under))

theorem length_firstIds_le (added : List Language) : (firstIds added).length ≤ added.length := by
  induction added using List.reverseRecOn with
  | nil => exact Nat.le_refl 0
  | append_singleton added l ih =>
    rw [firstIds_concat, List.length_append, List.length_singleton]
    split
    next => omega
    next =>
      rw [List.length_append, List.length_singleton]
      omega

/-- What a registry answers after languages are added. -/
structure Answers (added : List Language) (r : Registry) : Prop where
  /-- An id leads to itself, and any other name to the last language that has it as an alias. -/
  resolve : ∀ name, r.resolve? name =
    if ∃ l ∈ added, lowercase l.id = lowercase name then some (lowercase name)
    else (lastListing (·.aliases) added name).map fun l => lowercase l.id
  /-- Where a name leads to an id, there is a language: the last one added under the id, with the
  number that counts the ids up to the first registration of this one. -/
  known : ∀ name id, r.resolve? name = some id → ∃ l, lastUnder added id = some l ∧
    r.language name = .ok { l with number := (firstIds added).idxOf id + 1 }
  /-- Any other name is reported as it was given. -/
  unknown : ∀ name, r.resolve? name = none → r.language name = .error (.unknownLanguage name)
  /-- A file belongs to the last language that lists its extension. -/
  detect : ∀ path, r.detect? path = (Path.extension? path).bind fun extension =>
    (lastListing (·.extensions) added extension).map fun l => lowercase l.id
  detect_mem : ∀ path id, r.detect? path = some id → id ∈ r.ids
  /-- Numbers start at 1, and there are no more of them than languages were added. -/
  number_bounds : ∀ name l, r.language name = .ok l → 0 < l.number ∧ l.number ≤ added.length
  /-- Ids with one number are the same. -/
  number_distinct : ∀ name other l l',
    r.language name = .ok l → r.language other = .ok l' → l.number = l'.number →
    r.resolve? name = r.resolve? other
  /-- Whatever is added later, an id keeps its number. -/
  number_kept : ∀ more name other id l l', r.resolve? name = some id → r.language name = .ok l →
    (after (added ++ more)).resolve? other = some id →
      (after (added ++ more)).language other = .ok l' →
    l'.number = l.number
  /-- The ids are listed in strictly rising order. -/
  ids_sorted : r.ids.Pairwise (· < ·)
  /-- The ids listed are those under which languages were added. -/
  ids_mem : ∀ id, id ∈ r.ids ↔ ∃ l ∈ added, lowercase l.id = id

/-- After every history a registry answers as the history says. -/
theorem after_answers (added : List Language) : (after added).Answers added where
  resolve := resolve?_after
  known _ _ := language_after
  unknown _ := language_of_unresolved
  detect := detect?_after
  detect_mem path id detected := by
    rw [detect?_after] at detected
    obtain ⟨_, -, listed⟩ := Option.bind_eq_some_iff.mp detected
    obtain ⟨l, last, rfl⟩ := Option.map_eq_some_iff.mp listed
    exact mem_ids.mpr (mem_of_lastListing last)
  number_bounds name l found := by
    obtain ⟨id, resolved⟩ := exists_resolve? found
    have inside := List.idxOf_lt_length_iff.mpr (mem_of_resolve? resolved)
    have few := length_firstIds_le added
    rw [number_eq resolved found]
    omega
  number_distinct name other l l' found found' same := by
    obtain ⟨id, resolved⟩ := exists_resolve? found
    obtain ⟨id', resolved'⟩ := exists_resolve? found'
    rw [number_eq resolved found, number_eq resolved' found', Nat.add_right_cancel_iff,
      List.idxOf_inj (mem_of_resolve? resolved)] at same
    rw [resolved, resolved', same]
  number_kept more name other id l l' resolved found resolved' found' := by
    rw [number_eq resolved found, number_eq resolved' found',
      idxOf_firstIds_append added more (mem_of_resolve? resolved)]
  ids_sorted := ids_pairwise added
  ids_mem _ := mem_ids.trans mem_firstIds

end Answers

end Highlight.Registry
