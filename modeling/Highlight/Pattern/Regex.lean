import Highlight.Regex.Basic
import Highlight.Pattern.Reader

/-!
# Patterns as regexes

Whatever a pattern is, a way through it only moves forward (`reaches_of_mem_ends`), so a pattern is
a regex. The proof goes through the combinators that `Pattern.ends` is made of: each of them lists
only ways that some chain of steps leads to, so it is enough that one step moves forward.

At most places of a text the next character alone tells that there is no match (`Pattern.opens`),
and then a regex does not try any way (`ends_eq_nil`).
-/

namespace Highlight

namespace Way

/-- The first way leads on to the second. -/
def Reaches (v w : Way) : Prop := v.cursor.Reaches w.cursor

theorem Reaches.refl (w : Way) : w.Reaches w := Cursor.Reaches.refl w.cursor

theorem Reaches.trans {u v w : Way} (first : u.Reaches v) (second : v.Reaches w) : u.Reaches w :=
  Cursor.Reaches.trans first second

theorem cursor_of_pass? {here : Address} {v w : Way} (h : v.pass? here = some w) :
    w.cursor = v.cursor := by
  unfold pass? at h
  split at h
  · cases h
  · cases h
    rfl

theorem reaches_of_pass? {here : Address} {v w : Way} (h : v.pass? here = some w) :
    v.Reaches w := by
  rw [Reaches, cursor_of_pass? h]
  exact .refl _

end Way

namespace Pattern

/-! ## Combinators -/

theorem mem_of_mem_merge {w : Way} {preferred others : List Way} (h : w ∈ merge preferred others) :
    w ∈ preferred ∨ w ∈ others := by
  rcases List.mem_append.mp h with first | second
  · exact .inl first
  · exact .inr (List.mem_filter.mp second).1

/-- A visit that lists only old ways and ways that the visited one leads to, repeated over ways from
`v`. -/
theorem reaches_of_mem_foldl {visit : List Way → Way → List Way}
    (visits : ∀ out u w, w ∈ visit out u → w ∈ out ∨ u.Reaches w) {v : Way} {ways : List Way}
    (reached : ∀ u ∈ ways, v.Reaches u) {out : List Way} {w : Way}
    (h : w ∈ ways.foldl visit out) : w ∈ out ∨ v.Reaches w := by
  induction ways generalizing out with
  | nil => exact .inl h
  | cons u ways ih =>
    rcases ih (fun u' mem => reached u' (List.mem_cons_of_mem _ mem)) h with visited | behind
    · rcases visits _ _ _ visited with old | behind
      · exact .inl old
      · exact .inr ((reached u List.mem_cons_self).trans behind)
    · exact .inr behind

theorem reaches_of_mem_branch {here : Address} {onward : Way → List Way} {v w : Way}
    (forward : ∀ u, w ∈ onward u → u.Reaches w) (h : w ∈ branch here v onward) : v.Reaches w := by
  unfold branch at h
  split at h
  · cases h
  next u passed => exact (Way.reaches_of_pass? passed).trans (forward u h)

theorem reaches_of_mem_prefer {eager : Bool} {further : List Way} {v w : Way}
    (forward : ∀ u ∈ further, v.Reaches u) (h : w ∈ prefer eager further v) : v.Reaches w := by
  have either : w ∈ further ∨ w ∈ [v] := by
    unfold prefer at h
    split at h
    · exact mem_of_mem_merge h
    · exact (mem_of_mem_merge h).symm
  rcases either with onward | here
  · exact forward w onward
  · rw [List.mem_singleton.mp here]
    exact .refl v

section Steps

variable {step : Way → List Way} (forward : ∀ v w, w ∈ step v → v.Reaches w)
include forward

theorem reaches_of_mem_after {v w : Way} {ways : List Way} (reached : ∀ u ∈ ways, v.Reaches u)
    (h : w ∈ after ways step) : v.Reaches w := by
  have visits (out : List Way) (u w : Way) (mem : w ∈ merge out (step u)) :
      w ∈ out ∨ u.Reaches w :=
    (mem_of_mem_merge mem).imp_right (forward u w)
  rcases reaches_of_mem_foldl visits reached h with none | behind
  · cases none
  · exact behind

theorem reaches_of_mem_rounds (here : Address) (eager : Bool) (fuel : Nat) :
    ∀ out v w, w ∈ rounds here eager step fuel out v → w ∈ out ∨ v.Reaches w := by
  induction fuel with
  | zero => exact fun out v w h => .inl h
  | succ fuel ih =>
    intro out v w h
    rw [rounds] at h
    split at h
    · exact .inl h
    next u passed =>
      have here := Way.reaches_of_pass? passed
      have onward (out : List Way) (mem : w ∈ (step u).foldl (rounds _ eager step fuel) out) :
          w ∈ out ∨ v.Reaches w :=
        (reaches_of_mem_foldl ih (forward u) mem).imp_right here.trans
      split at h
      · exact .inl h
      · split at h
        · rcases List.mem_cons.mp h with rfl | further
          · exact .inr here
          · exact onward out further
        · rcases onward _ h with listed | further
          · rcases List.mem_cons.mp listed with rfl | old
            · exact .inr here
            · exact .inl old
          · exact .inr further

theorem reaches_of_mem_anyRounds (here : Address) (eager : Bool) {v w : Way}
    (h : w ∈ anyRounds here eager step v) : v.Reaches w := by
  rw [anyRounds, List.mem_reverse] at h
  rcases reaches_of_mem_rounds forward _ _ _ _ _ _ h with none | reached
  · cases none
  · exact reached

theorem reaches_of_mem_someRounds (here : Address) (eager : Bool) {v w : Way}
    (h : w ∈ someRounds here eager step v) : v.Reaches w := by
  rw [someRounds, List.mem_reverse] at h
  have known := reaches_of_mem_foldl (reaches_of_mem_rounds forward _ _ _) (forward v) h
  rcases known with none | reached
  · cases none
  · exact reached

end Steps

section Copies

variable {copy : Nat → Way → List Way} (forward : ∀ k v w, w ∈ copy k v → v.Reaches w)
include forward

theorem reaches_of_mem_exactly (n : Nat) {v w : Way} (h : w ∈ exactly copy n v) :
    v.Reaches w := by
  induction n generalizing w with
  | zero =>
    rw [List.mem_singleton.mp h]
    exact .refl v
  | succ n ih => exact reaches_of_mem_after (forward n) (fun _ => ih) h

theorem reaches_of_mem_upTo (here : Address) (eager : Bool) (left : Nat) :
    ∀ k v w, w ∈ upTo here eager copy k left v → v.Reaches w := by
  induction left with
  | zero =>
    intro k v w h
    rw [List.mem_singleton.mp h]
    exact .refl v
  | succ left ih =>
    intro k v w h
    refine reaches_of_mem_branch (fun u mem => reaches_of_mem_prefer ?_ mem) h
    exact fun _ => reaches_of_mem_after (ih (k + 1)) (forward k u)

theorem reaches_of_mem_repeated (here : Address) (r : Repetition) (filled : Bool) {v w : Way}
    (h : w ∈ repeated here r filled copy v) : v.Reaches w := by
  unfold repeated at h
  split at h
  next =>
    exact reaches_of_mem_after (reaches_of_mem_upTo forward _ _ _ _)
      (fun _ => reaches_of_mem_exactly forward _) h
  next least _ _ =>
    exact reaches_of_mem_after (fun _ _ => reaches_of_mem_someRounds (forward least) _ _)
      (fun _ => reaches_of_mem_exactly forward least) h
  next =>
    split at h
    · exact reaches_of_mem_anyRounds (forward 0) _ _ h
    · refine reaches_of_mem_branch (fun u mem => reaches_of_mem_prefer ?_ mem) h
      exact fun _ => reaches_of_mem_someRounds (forward 0) _ _

end Copies

/-! ## Patterns -/

/-- Every way through a pattern leads forward. -/
theorem reaches_of_mem_ends (p : Pattern) : ∀ here v w, w ∈ p.ends here v → v.Reaches w := by
  induction p with
  | empty =>
    intro here v w h
    rw [List.mem_singleton.mp h]
    exact .refl v
  | set s =>
    intro here v w h
    rw [ends] at h
    split at h
    · split at h
      · rw [List.mem_singleton.mp h]
        exact v.cursor.reaches_next
      · cases h
    · cases h
  | assert a =>
    intro here v w h
    rw [ends] at h
    split at h
    · rw [List.mem_singleton.mp h]
      exact .refl v
    · cases h
  | seq a b iha ihb => exact fun here v w => reaches_of_mem_after (ihb _) (iha _ v)
  | alt a b iha ihb =>
    intro here v w h
    refine reaches_of_mem_branch (fun u mem => ?_) h
    exact (mem_of_mem_merge mem).elim (iha _ u w) (ihb _ u w)
  | many p r ih => exact fun here v w => reaches_of_mem_repeated (fun k => ih _) here r _

theorem reaches_of_matchAt? {p : Pattern} {c stop : Cursor} (h : p.matchAt? c = some stop) :
    c.Reaches stop := by
  obtain ⟨w, first, rfl⟩ := Option.map_eq_some_iff.mp h
  exact p.reaches_of_mem_ends [] ⟨c, []⟩ w (List.mem_of_head? first)

/-! ## Where a match may start -/

/-- No match reads a character. -/
def stays : Pattern → Bool
  | .empty | .assert _ => true
  | _ => false

/-- A match may start in front of the character, or at the end of the text. This is seen from the
first parts of the pattern, and is no promise that there is a match. -/
def opens : Pattern → Option Char → Bool
  | .empty, _ | .assert _, _ => true
  | .set s, next => next.any s.mem
  | .seq a b, next => a.opens next && (!a.stays || b.opens next)
  | .alt a b, next => a.opens next || b.opens next
  | .many p r, next => r.atLeast == 0 || p.opens next

theorem after_singleton (w : Way) (step : Way → List Way) : after [w] step = step w := by
  simp [after, merge, Way.listed]

theorem exactly_eq_nil {copy : Nat → Way → List Way} {v : Way} (none : copy 0 v = []) (n : Nat) :
    exactly copy (n + 1) v = [] := by
  induction n with
  | zero => rw [exactly, exactly, after_singleton, none]
  | succ n ih =>
    rw [exactly, ih]
    rfl

theorem repeated_eq_nil {copy : Nat → Way → List Way} {v : Way} (none : copy 0 v = [])
    {r : Repetition} (some : r.atLeast ≠ 0) (here : Address) (filled : Bool) :
    repeated here r filled copy v = [] := by
  unfold repeated
  split
  next =>
    obtain ⟨n, least⟩ := Nat.exists_eq_succ_of_ne_zero some
    rw [least, exactly_eq_nil none]
    rfl
  next least _ _ =>
    cases least with
    | zero =>
      rw [exactly, after_singleton, someRounds, none]
      rfl
    | succ least =>
      rw [exactly_eq_nil none]
      rfl
  next zero => exact absurd zero some

/-- Where no match may start there is no way through a pattern. -/
theorem ends_eq_nil (p : Pattern) :
    ∀ here v, p.opens v.cursor.rest.head? = false → p.ends here v = [] := by
  induction p with
  | empty => exact fun here v h => nomatch h
  | assert a => exact fun here v h => nomatch h
  | set s =>
    intro here v h
    rw [ends]
    cases spells : v.cursor.rest with
    | nil => rfl
    | cons ch rest =>
      rw [spells] at h
      exact if_neg (Bool.eq_false_iff.mp h)
  | seq a b iha ihb =>
    intro here v h
    rw [opens, Bool.and_eq_false_iff] at h
    rw [ends]
    rcases h with first | second
    · rw [iha _ v first]
      rfl
    · obtain ⟨still, behind⟩ : a.stays = true ∧ b.opens v.cursor.rest.head? = false := by
        simpa using second
      have onward := (after_singleton v (b.ends (1 :: here))).trans (ihb _ v behind)
      cases a with
      | empty => exact onward
      | assert a =>
        rw [ends]
        split
        · exact onward
        · rfl
      | _ => cases still
  | alt a b iha ihb =>
    intro here v h
    rw [opens, Bool.or_eq_false_iff] at h
    rw [ends, branch]
    split
    next => rfl
    next u passed =>
      rw [← Way.cursor_of_pass? passed] at h
      rw [iha _ u h.1, ihb _ u h.2]
      rfl
  | many p r ih =>
    intro here v h
    rw [opens, Bool.or_eq_false_iff] at h
    exact repeated_eq_nil (ih _ v h.2) (by simpa using h.1) here p.reads

/-- The regex that a pattern describes. It looks at the next character first, which settles most
places without a match. -/
def regex (p : Pattern) : Regex where
  matchAt? c := if p.opens c.rest.head? then p.matchAt? c else none
  reaches_of_matchAt? matched := reaches_of_matchAt? (Option.ite_none_right_eq_some.mp matched).2

/-- Looking at the next character first makes no difference. -/
theorem matchAt?_regex (p : Pattern) (c : Cursor) : p.regex.matchAt? c = p.matchAt? c := by
  show (if p.opens c.rest.head? then p.matchAt? c else none) = _
  split
  next => rfl
  next shut => rw [matchAt?, p.ends_eq_nil [] ⟨c, []⟩ (Bool.eq_false_iff.mpr shut)]; rfl

end Pattern

/-- The regex of a written pattern; `none` when the text is no pattern. -/
def Regex.read? (source : String) : Option Regex := (Pattern.parse? source).map Pattern.regex

end Highlight
