import Highlight.Text.Bytes

/-!
# Laws of byte slices

`slice?` answers exactly when the text falls apart at the two offsets (`slice?_eq_some_iff`), so
every law of slices is a law of decompositions `front ++ piece ++ back`. Three of them carry the
rest of the theory: neighbouring slices join (`slice?_append`), a slice of a slice is a slice of the
whole (`slice?_slice?`), and a slice exists exactly when both of its ends are boundaries in order
(`slice?_isSome_iff`).

A boundary is stated as a decomposition and decided by `splitBytes?`.
-/

namespace Highlight

/-! ## Decompositions of a text -/

@[simp] theorem byteLength_eq_zero_iff {cs : List Char} : byteLength cs = 0 ↔ cs = [] := by
  cases cs with
  | nil => simp
  | cons c cs =>
    have positive := c.utf8Size_pos
    simp only [byteLength_cons, reduceCtorEq, iff_false]
    omega

theorem byteLength_pos {cs : List Char} (filled : cs ≠ []) : 0 < byteLength cs :=
  Nat.pos_of_ne_zero fun none => filled (byteLength_eq_zero_iff.mp none)

@[simp] theorem byteSize_eq_zero_iff {s : String} : byteSize s = 0 ↔ s = "" := by
  simp [byteSize]

theorem byteSize_append (s t : String) : byteSize (s ++ t) = byteSize s + byteSize t := by
  simp [byteSize, byteLength_append]

/-- Two decompositions of a text at one offset are the same. -/
theorem append_inj_of_byteLength : ∀ {front front' back back' : List Char},
    front ++ back = front' ++ back' → byteLength front = byteLength front' →
      front = front' ∧ back = back'
  | [], front', _, _, same, size => by
    have none : front' = [] := byteLength_eq_zero_iff.mp size.symm
    subst none
    exact ⟨rfl, same⟩
  | c :: front, [], _, _, _, size => by
    have none := byteLength_eq_zero_iff.mp size
    cases none
  | c :: front, c' :: front', back, back', same, size => by
    simp only [List.cons_append, List.cons.injEq] at same
    obtain ⟨rfl, same⟩ := same
    simp only [byteLength_cons, Nat.add_left_cancel_iff] at size
    obtain ⟨rfl, rfl⟩ := append_inj_of_byteLength same size
    exact ⟨rfl, rfl⟩

/-- Of two decompositions of a text the later one extends the front of the earlier one. -/
theorem append_extend_of_byteLength {front front' back back' : List Char}
    (same : front ++ back = front' ++ back') (size : byteLength front ≤ byteLength front') :
    ∃ middle, front' = front ++ middle ∧ back = middle ++ back' := by
  rcases List.append_eq_append_iff.mp same with ⟨middle, rfl, rfl⟩ | ⟨extra, rfl, rfl⟩
  · exact ⟨middle, rfl, rfl⟩
  · rw [byteLength_append] at size
    have none : extra = [] := byteLength_eq_zero_iff.mp (by omega)
    subst none
    exact ⟨[], by simp, by simp⟩

theorem splitBytes?_append (front back : List Char) :
    splitBytes? (byteLength front) (front ++ back) = some (front, back) := by
  induction front with
  | nil => cases back <;> rfl
  | cons c front ih =>
    obtain ⟨n, size⟩ : ∃ n, byteLength (c :: front) = n + 1 :=
      Nat.exists_eq_succ_of_ne_zero fun h => by cases byteLength_eq_zero_iff.mp h
    have fits : c.utf8Size ≤ n + 1 := by simp only [byteLength_cons] at size; omega
    have left : n + 1 - c.utf8Size = byteLength front := by
      simp only [byteLength_cons] at size; omega
    rw [size, List.cons_append, splitBytes?, if_pos fits, left, ih]
    rfl

/-- `splitBytes?` finds the one decomposition at an offset. -/
theorem splitBytes?_eq_some_iff {n : Nat} {cs front back : List Char} :
    splitBytes? n cs = some (front, back) ↔ cs = front ++ back ∧ byteLength front = n := by
  constructor
  · intro split
    induction cs generalizing n front with
    | nil =>
      cases n with
      | zero => cases split; exact ⟨rfl, rfl⟩
      | succ n => cases split
    | cons c cs ih =>
      cases n with
      | zero => cases split; exact ⟨rfl, rfl⟩
      | succ n =>
        rw [splitBytes?] at split
        split at split
        next fits =>
          obtain ⟨⟨front', back'⟩, inner, equal⟩ := Option.map_eq_some_iff.mp split
          cases equal
          obtain ⟨rfl, size⟩ := ih inner
          refine ⟨rfl, ?_⟩
          rw [byteLength_cons, size]
          omega
        next => cases split
  · rintro ⟨rfl, rfl⟩
    exact splitBytes?_append front back

/-! ## Boundaries -/

/-- The text falls apart at this byte offset: a character starts there, or the text ends. -/
def Boundary (cs : List Char) (n : Nat) : Prop :=
  ∃ front back, cs = front ++ back ∧ byteLength front = n

theorem boundary_iff_splitBytes? {cs : List Char} {n : Nat} :
    Boundary cs n ↔ (splitBytes? n cs).isSome := by
  rw [Option.isSome_iff_exists]
  constructor
  · rintro ⟨front, back, parts⟩
    exact ⟨(front, back), splitBytes?_eq_some_iff.mpr parts⟩
  · rintro ⟨⟨front, back⟩, split⟩
    exact ⟨front, back, splitBytes?_eq_some_iff.mp split⟩

instance (cs : List Char) (n : Nat) : Decidable (Boundary cs n) :=
  decidable_of_iff _ boundary_iff_splitBytes?.symm

theorem boundary_zero (cs : List Char) : Boundary cs 0 := ⟨[], cs, rfl, rfl⟩

theorem boundary_byteLength (cs : List Char) : Boundary cs (byteLength cs) := ⟨cs, [], by simp, rfl⟩

theorem boundary_byteSize (s : String) : Boundary s.toList (byteSize s) :=
  boundary_byteLength s.toList

theorem Boundary.le_byteLength {cs : List Char} {n : Nat} (h : Boundary cs n) :
    n ≤ byteLength cs := by
  obtain ⟨front, back, rfl, rfl⟩ := h
  rw [byteLength_append]
  omega

/-! ## Slices -/

theorem sliceChars?_eq_some_iff {cs piece : List Char} {start stop : Nat} :
    sliceChars? cs start stop = some piece ↔
      ∃ front back, cs = front ++ piece ++ back ∧ byteLength front = start ∧
        start + byteLength piece = stop := by
  constructor
  · intro cut
    unfold sliceChars? at cut
    split at cut
    next ordered =>
      obtain ⟨⟨front, rest⟩, first, cut⟩ := Option.bind_eq_some_iff.mp cut
      obtain ⟨⟨inner, back⟩, second, equal⟩ := Option.bind_eq_some_iff.mp cut
      cases equal
      obtain ⟨rfl, rfl⟩ := splitBytes?_eq_some_iff.mp first
      obtain ⟨rfl, size⟩ := splitBytes?_eq_some_iff.mp second
      exact ⟨front, back, by simp, rfl, by omega⟩
    next => cases cut
  · rintro ⟨front, back, rfl, rfl, rfl⟩
    have first := splitBytes?_append front (piece ++ back)
    have second := splitBytes?_append piece back
    have width : byteLength front + byteLength piece - byteLength front = byteLength piece := by
      omega
    unfold sliceChars?
    rw [if_pos (Nat.le_add_right _ _), List.append_assoc, first, width]
    simp only [Option.bind_eq_bind, Option.bind_some, second, Option.pure_def]

/-- A slice is the middle of a decomposition whose front is as long as its first offset. -/
theorem slice?_eq_some_iff {s piece : String} {start stop : Nat} :
    slice? s start stop = some piece ↔
      ∃ front back, s.toList = front ++ piece.toList ++ back ∧ byteLength front = start ∧
        start + byteSize piece = stop := by
  unfold slice?
  rw [Option.map_eq_some_iff]
  constructor
  · rintro ⟨inner, cut, rfl⟩
    simpa [byteSize] using sliceChars?_eq_some_iff.mp cut
  · intro parts
    exact ⟨piece.toList, sliceChars?_eq_some_iff.mpr parts, String.ofList_toList⟩

/-- A slice is as long as its offsets say. -/
theorem slice?_size {s piece : String} {start stop : Nat} (cut : slice? s start stop = some piece) :
    start + byteSize piece = stop := by
  obtain ⟨_, _, _, _, size⟩ := slice?_eq_some_iff.mp cut
  exact size

/-- A slice between two different offsets holds text. -/
theorem slice?_ne_empty {s piece : String} {start stop : Nat}
    (cut : slice? s start stop = some piece) (wide : start < stop) : piece ≠ "" := by
  intro blank
  have size := slice?_size cut
  rw [byteSize_eq_zero_iff.mpr blank] at size
  omega

theorem slice?_isSome_iff {s : String} {start stop : Nat} :
    (slice? s start stop).isSome ↔
      start ≤ stop ∧ Boundary s.toList start ∧ Boundary s.toList stop := by
  rw [Option.isSome_iff_exists]
  constructor
  · rintro ⟨piece, cut⟩
    obtain ⟨front, back, parts, first, size⟩ := slice?_eq_some_iff.mp cut
    refine ⟨by omega, ⟨front, piece.toList ++ back, by simpa using parts, first⟩,
      ⟨front ++ piece.toList, back, parts, ?_⟩⟩
    rw [byteLength_append, first]
    exact size
  · rintro ⟨ordered, ⟨front, rest, parts, first⟩, ⟨long, back, parts', last⟩⟩
    obtain ⟨middle, rfl, rfl⟩ := append_extend_of_byteLength (parts.symm.trans parts') (by omega)
    refine ⟨String.ofList middle,
      slice?_eq_some_iff.mpr ⟨front, back, by simpa using parts', first, ?_⟩⟩
    rw [byteLength_append] at last
    simp only [byteSize, String.toList_ofList]
    omega

/-- Both ends of a slice are boundaries. -/
theorem slice?_boundaries {s piece : String} {start stop : Nat}
    (cut : slice? s start stop = some piece) :
    start ≤ stop ∧ Boundary s.toList start ∧ Boundary s.toList stop :=
  slice?_isSome_iff.mp (by rw [cut]; rfl)

/-- Between boundaries in order there is a slice. -/
theorem exists_slice? {s : String} {start stop : Nat} (ordered : start ≤ stop)
    (first : Boundary s.toList start) (last : Boundary s.toList stop) :
    ∃ piece, slice? s start stop = some piece :=
  Option.isSome_iff_exists.mp (slice?_isSome_iff.mpr ⟨ordered, first, last⟩)

@[simp] theorem slice?_all (s : String) : slice? s 0 (byteSize s) = some s :=
  slice?_eq_some_iff.mpr ⟨[], [], by simp, rfl, by simp⟩

theorem slice?_self {s : String} {n : Nat} (h : Boundary s.toList n) : slice? s n n = some "" := by
  obtain ⟨front, back, parts, size⟩ := h
  exact slice?_eq_some_iff.mpr ⟨front, back, by simpa using parts, size, by simp [byteSize]⟩

/-- Neighbouring slices join. -/
theorem slice?_append {s left right : String} {start middle stop : Nat}
    (first : slice? s start middle = some left) (second : slice? s middle stop = some right) :
    slice? s start stop = some (left ++ right) := by
  obtain ⟨front, rest, parts, size, width⟩ := slice?_eq_some_iff.mp first
  obtain ⟨front', back, parts', size', width'⟩ := slice?_eq_some_iff.mp second
  have same : (front ++ left.toList) ++ rest = front' ++ (right.toList ++ back) := by
    rw [← parts, parts', List.append_assoc]
  have equal : byteLength (front ++ left.toList) = byteLength front' := by
    rw [byteLength_append, size, size']
    exact width
  obtain ⟨rfl, rfl⟩ := append_inj_of_byteLength same equal
  refine slice?_eq_some_iff.mpr ⟨front, back, by simpa using parts, size, ?_⟩
  rw [byteSize_append]
  omega

/-- A slice of a slice is a slice of the whole text. -/
theorem slice?_slice? {s part : String} {start stop : Nat} (cut : slice? s start stop = some part)
    {i j : Nat} (low : start ≤ i) (ordered : i ≤ j) (high : j ≤ stop) :
    slice? part (i - start) (j - start) = slice? s i j := by
  obtain ⟨front, back, parts, size, width⟩ := slice?_eq_some_iff.mp cut
  ext piece
  rw [slice?_eq_some_iff, slice?_eq_some_iff]
  constructor
  · rintro ⟨front', back', inner, size', width'⟩
    refine ⟨front ++ front', back' ++ back, ?_, ?_, ?_⟩
    · simp [parts, inner]
    · rw [byteLength_append]
      omega
    · omega
  · rintro ⟨front', back', outer, size', width'⟩
    -- the piece lies behind `front` and before `back`
    rw [parts] at outer
    simp only [List.append_assoc] at outer
    obtain ⟨gap, rfl, inner⟩ := append_extend_of_byteLength outer (by omega)
    rw [← List.append_assoc] at inner
    rw [byteLength_append] at size'
    obtain ⟨rest, inner, _⟩ := append_extend_of_byteLength inner.symm
      (by rw [byteLength_append]; simp only [byteSize] at width width'; omega)
    exact ⟨gap, rest, inner, by omega, by omega⟩

end Highlight
