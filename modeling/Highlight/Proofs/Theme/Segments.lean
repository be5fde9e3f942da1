import Highlight.Proofs.Text.Slices
import Highlight.Proofs.Theme.Deciding
import Mathlib.Data.List.Infix

/-!
# Names by their segments

A name covers a scope when it is the scope, or the scope goes on after it with a dot. That is said
of characters; what is meant are segments: those of the name are the first ones of the scope
(`covers_iff_segments`). A name is its segments with dots between them, so nothing is lost in going
over to them (`segments_injective`), empty segments included.

Covering is therefore the order of beginnings of lists, and the names that cover one scope lie on
one line of it. Of these no two are equally long (`Covers.eq_of_byteSize`). The contest for a scope
remembers the length of the leading alternative and not the alternative, and that is enough: one
that ties with it is the same, and both rules own it (`Theme.mem_alternatives_of_tie`).
-/

namespace Highlight

namespace Scope

/-- The pieces of a name between its dots. A name without dots is one piece, also the empty name. -/
def segments (name : String) : List String := (name.toList.splitOn '.').map String.ofList

theorem segments_append_dot (name rest : String) :
    segments (name ++ "." ++ rest) = segments name ++ segments rest := by
  simp [segments, List.splitOn_append_cons_self]

/-- Two lists of pieces, one behind the other, are divided by a dot too. -/
theorem intercalate_dot_append {front back : List (List Char)} (some : front ≠ [])
    (more : back ≠ []) :
    ['.'].intercalate (front ++ back) =
      ['.'].intercalate front ++ '.' :: ['.'].intercalate back := by
  induction front with
  | nil => exact absurd rfl some
  | cons piece front ih =>
    cases front with
    | nil => simp [List.intercalate_cons_of_ne_nil more]
    | cons piece' front =>
      have later := ih (List.cons_ne_nil _ _)
      rw [List.cons_append] at later ⊢
      rw [List.cons_append, List.intercalate_cons_cons, later, List.intercalate_cons_cons]
      simp only [List.append_assoc]

theorem segments_prefix_iff {name scope : String} :
    segments name <+: segments scope ↔ name.toList.splitOn '.' <+: scope.toList.splitOn '.' :=
  List.prefix_map_iff_of_injective fun _ _ same => String.ofList_injective same

/-- A name covers a scope exactly where its segments are the first ones of the scope. -/
theorem covers_iff_segments {name scope : String} :
    covers name scope ↔ segments name <+: segments scope := by
  rw [covers_iff]
  constructor
  · rintro (rfl | ⟨rest, rfl⟩)
    · exact List.prefix_rfl
    · exact ⟨segments rest, (segments_append_dot name rest).symm⟩
  · rw [segments_prefix_iff]
    rintro ⟨more, longer⟩
    -- the name and the scope are what their pieces spell
    have spelled : scope.toList = ['.'].intercalate (name.toList.splitOn '.' ++ more) := by
      rw [longer, List.intercalate_splitOn]
    cases more with
    | nil =>
      rw [List.append_nil, List.intercalate_splitOn] at spelled
      exact .inl (String.toList_inj.mp spelled)
    | cons piece more =>
      rw [intercalate_dot_append (List.splitOn_ne_nil _ _) (List.cons_ne_nil _ _),
        List.intercalate_splitOn] at spelled
      exact .inr ⟨String.ofList (['.'].intercalate (piece :: more)),
        String.toList_inj.mp (by simp [spelled])⟩

/-- A name is known by its segments. -/
theorem segments_injective : Function.Injective segments := by
  intro a b same
  have pieces := (List.map_injective_iff.mpr fun _ _ h => String.ofList_injective h) same
  have spelled := congrArg ['.'].intercalate pieces
  rw [List.intercalate_splitOn, List.intercalate_splitOn] at spelled
  exact String.toList_inj.mp spelled

/-- A name that covers another one is shorter. -/
theorem Covers.byteSize_lt {a b : String} (covers : Covers a b) (differ : a ≠ b) :
    byteSize a < byteSize b := by
  rcases covers with rfl | ⟨rest, rfl⟩
  · exact absurd rfl differ
  · have dot : byteSize "." = 1 := rfl
    rw [byteSize_append, byteSize_append]
    omega

/-- Of two names that cover one scope, one covers the other. -/
theorem Covers.comparable {a b scope : String} (first : Covers a scope) (second : Covers b scope) :
    Covers a b ∨ Covers b a := by
  simp only [← covers_iff, covers_iff_segments] at first second ⊢
  exact List.prefix_or_prefix_of_prefix first second

/-- No two names of the same length cover one scope. -/
theorem Covers.eq_of_byteSize {a b scope : String} (first : Covers a scope)
    (second : Covers b scope) (long : byteSize a = byteSize b) : a = b := by
  by_contra differ
  rcases first.comparable second with covers | covers
  · have := covers.byteSize_lt differ
    omega
  · have := covers.byteSize_lt (Ne.symm differ)
    omega

end Scope

namespace Theme

/-- Who leads the contest for a scope after some entries. -/
def leader (scope : String) (es : List Entry) : Option Contest :=
  es.foldl (fun best e => enter scope e.hit best e.alternative) none

/-- The leader is one of the entries and covers the scope. -/
theorem exists_entry_of_leader {scope : String} {es : List Entry} {best : Contest}
    (leads : leader scope es = some best) :
    ∃ e ∈ es, Scope.Covers e.alternative scope ∧ e.lead = best := by
  have run := foldl_enter scope es none
  rw [Option.map_none] at run
  obtain ⟨e, found, lead⟩ := Option.map_eq_some_iff.mp (run.symm.trans leads)
  have entered := List.mem_filter.mp (List.argmax_mem found)
  exact ⟨e, entered.1, Scope.covers_iff.mp entered.2, lead⟩

/-- An alternative that ties with the leader is owned by the leading rule too. -/
theorem mem_alternatives_of_tie {rules : List Rule} {scope alternative : String}
    {entered : List Entry} {best : Contest} (early : entered ⊆ entries 0 rules)
    (leads : leader scope entered = some best) (covers : Scope.Covers alternative scope)
    (ties : byteSize alternative = best.length) :
    alternative ∈ best.hit.rule.selector.alternatives := by
  obtain ⟨e, mem, covers', rfl⟩ := exists_entry_of_leader leads
  obtain rfl : alternative = e.alternative := covers.eq_of_byteSize covers' ties
  exact (mem_entries.mp (early mem)).2.2

end Theme

/-- Covering is the order of beginnings, taken on segments. A name covers a scope exactly where the
segments of the name are the first ones of the scope, whatever dots and empty segments the two have.
So every name covers itself, covering passes on, two names that cover each other are the same, and
of two names that cover one scope one covers the other; where they are equally long they are the
same. Whenever in the contest for a scope an alternative that covers it is as long as the leading
one, the two rules between which the tie is broken both own this alternative. -/
theorem Scope.covers_orders_segments :
    (∀ name scope, covers name scope ↔ segments name <+: segments scope) ∧
    (∀ name, covers name name) ∧
    (∀ a b c, covers a b → covers b c → covers a c) ∧
    (∀ a b, covers a b → covers b a → a = b) ∧
    (∀ a b scope, covers a scope → covers b scope → covers a b ∨ covers b a) ∧
    (∀ a b scope, covers a scope → covers b scope → byteSize a = byteSize b → a = b) ∧
    ∀ rules scope, Theme.contest scope 0 none rules = Theme.leader scope (Theme.entries 0 rules) ∧
      ∀ entered e later best, Theme.entries 0 rules = entered ++ e :: later →
        Theme.leader scope entered = some best →
        covers e.alternative scope → byteSize e.alternative = best.length →
        e.alternative ∈ best.hit.rule.selector.alternatives ∧
        e.alternative ∈ e.hit.rule.selector.alternatives := by
  refine ⟨fun _ _ => covers_iff_segments, ?_, ?_, ?_, ?_, ?_, ?_⟩
  · intro name
    exact covers_iff_segments.mpr List.prefix_rfl
  · intro a b c first second
    rw [covers_iff_segments] at first second ⊢
    exact first.trans second
  · intro a b first second
    rw [covers_iff_segments] at first second
    exact segments_injective (first.eq_of_length_le second.length_le)
  · intro a b scope first second
    simp only [covers_iff] at first second ⊢
    exact first.comparable second
  · intro a b scope first second
    exact (covers_iff.mp first).eq_of_byteSize (covers_iff.mp second)
  · intro rules scope
    refine ⟨Theme.contest_eq_foldl scope 0 none rules, ?_⟩
    intro entered e later best order leads covers ties
    have early : entered ⊆ Theme.entries 0 rules :=
      order ▸ List.subset_append_left entered (e :: later)
    have here : e ∈ Theme.entries 0 rules :=
      order ▸ List.mem_append_right entered List.mem_cons_self
    exact ⟨Theme.mem_alternatives_of_tie early leads (covers_iff.mp covers) ties,
      (Theme.mem_entries.mp here).2.2⟩

/-- Names with an empty segment and with a character of two bytes. The second rule enters the
alternative with which the first one leads. -/
theorem Scope.covers_orders_segments_doubled :
    let first : Rule := { selector := ⟨["comment", "text..é"]⟩ }
    let second : Rule := { selector := ⟨["text..é"]⟩ }
    segments "text..é.x" = ["text", "", "é", "x"] ∧ segments "text." <+: segments "text..é.x" ∧
      covers "text." "text..é" ∧ covers "text..é" "text..é.x" ∧ covers "text." "text..é.x" ∧
      Theme.contest "text..é.x" 0 none [first, second] = some ⟨⟨0, first⟩, 8⟩ ∧
      "text..é" ∈ first.selector.alternatives ∧ "text..é" ∈ second.selector.alternatives := by
  intro first second
  obtain ⟨bySegments, -, passes, -, -, -, contests⟩ := covers_orders_segments
  have inner : covers "text." "text..é" := by decide
  have outer : covers "text..é" "text..é.x" := by decide
  have whole := passes _ _ _ inner outer
  have misses : covers "comment" "text..é.x" = false := by decide
  have size : byteSize "text..é" = 8 := by decide
  obtain ⟨run, ties⟩ := contests [first, second] "text..é.x"
  have leads : Theme.leader "text..é.x" [⟨⟨0, first⟩, "comment"⟩, ⟨⟨0, first⟩, "text..é"⟩] =
      some ⟨⟨0, first⟩, 8⟩ := by
    simp [Theme.leader, Theme.enter, misses, outer, size]
  have decided : Theme.leader "text..é.x" (Theme.entries 0 [first, second]) =
      some ⟨⟨0, first⟩, 8⟩ := by
    simp [Theme.leader, Theme.entries, first, second, Theme.enter, misses, outer, size]
  exact ⟨by decide +kernel, (bySegments _ _).mp whole, inner, outer, whole, run.trans decided,
    ties _ ⟨⟨1, second⟩, "text..é"⟩ [] _ rfl leads outer size⟩

end Highlight
