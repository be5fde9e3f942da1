import Highlight.Proofs.Text.Slices
import Highlight.Token.Line

/-!
# What tokens spell

The contents of a list of tokens, one behind the other, are the text that the tokens spell. A pair
gives one token, which shows the line up to the next pair, or none (`lineTokens_cons_cases`). So
pairs with boundaries of the line as starts, in order, give tokens that spell the line from the
first start on (`slice?_lineTokens`), and no pairs whatever give an empty token
(`lineTokens_filled`).
-/

namespace Highlight

/-- The text that tokens spell. -/
def spelled (tokens : List Token) : String := String.join (tokens.map (·.content))

@[simp] theorem spelled_nil : spelled [] = "" := rfl

@[simp] theorem spelled_cons (t : Token) (ts : List Token) :
    spelled (t :: ts) = t.content ++ spelled ts := by
  simp [spelled, String.join_cons]

@[simp] theorem spelled_append (ts us : List Token) :
    spelled (ts ++ us) = spelled ts ++ spelled us := by
  simp [spelled, String.join_append]

/-- Tokens that hold text and spell nothing are none. -/
theorem eq_nil_of_spelled_empty {tokens : List Token} (filled : ∀ t ∈ tokens, t.content ≠ "")
    (blank : spelled tokens = "") : tokens = [] := by
  cases tokens with
  | nil => rfl
  | cons t ts =>
    rw [spelled_cons, String.append_eq_empty_iff] at blank
    exact absurd blank.1 (filled t List.mem_cons_self)

/-- The tokens without text. -/
def blanks (tokens : List Token) : List Token := tokens.filter (·.content == "")

theorem blanks_append (ts us : List Token) : blanks (ts ++ us) = blanks ts ++ blanks us :=
  List.filter_append ..

theorem blanks_eq_nil_iff {tokens : List Token} :
    blanks tokens = [] ↔ ∀ t ∈ tokens, t.content ≠ "" := by
  simp [blanks, List.filter_eq_nil_iff]

/-! ## What one pair gives -/

/-- A pair with the part of the line that it speaks of. -/
structure Extent where
  start : Nat
  stop : Nat
  word : UInt32

/-- A pair speaks of the line up to the offset of the next pair, and the last one up to the end of
the line. -/
def extents (line : String) : List (Nat × UInt32) → List Extent
  | [] => []
  | (start, word) :: pairs =>
    ⟨start, (pairs.head?.map (·.1)).getD (byteSize line), word⟩ :: extents line pairs

/-- There is text between the two offsets, and no character is split at either. -/
def Extent.Filled (line : String) (e : Extent) : Prop :=
  e.start < e.stop ∧ Boundary line.toList e.start ∧ Boundary line.toList e.stop

instance (line : String) (e : Extent) : Decidable (e.Filled line) :=
  inferInstanceAs (Decidable (_ ∧ _ ∧ _))

namespace Painter

variable (p : Painter) {line : String}

/-- The token has the color and the font style that the word names. -/
structure Wears (word : UInt32) (t : Token) : Prop where
  color : t.color = p.palette.color? (Attributes.unpack word).foreground.toNat
  fontStyle : t.fontStyle = (Attributes.unpack word).fontStyle

/-- The token is the part of the line that a pair speaks of, in the look that the pair names. -/
structure Shows (line : String) (e : Extent) (t : Token) : Prop extends p.Wears e.word t where
  content : slice? line e.start e.stop = some t.content

/-- A pair gives the token that shows its part of the line, or none where there is no text to
show. -/
theorem lineTokens_cons_cases (line : String) (unexplained : Option (List ScopedToken))
    (start : Nat) (word : UInt32) (pairs : List (Nat × UInt32)) :
    let e : Extent := ⟨start, (pairs.head?.map (·.1)).getD (byteSize line), word⟩
    (e.Filled line ∧ ∃ t remaining, p.Shows line e t ∧
      p.lineTokens line unexplained ((start, word) :: pairs) =
        t :: p.lineTokens line remaining pairs) ∨
    (¬ e.Filled line ∧
      p.lineTokens line unexplained ((start, word) :: pairs) =
        p.lineTokens line unexplained pairs) := by
  intro e
  rw [lineTokens]
  by_cases wide : e.start < e.stop
  · rw [if_pos wide]
    cases cut : slice? line e.start e.stop with
    | some content =>
      refine .inl ⟨⟨wide, (slice?_boundaries cut).2⟩, _, _, ?_, rfl⟩
      exact { color := rfl, fontStyle := rfl, content := cut }
    | none =>
      refine .inr ⟨fun filled => ?_, rfl⟩
      obtain ⟨content, cut'⟩ := exists_slice? (Nat.le_of_lt wide) filled.2.1 filled.2.2
      cases cut.symm.trans cut'
  · rw [if_neg wide]
    exact .inr ⟨fun filled => wide filled.1, rfl⟩

/-- A line's tokens hold text, whatever the pairs are. -/
theorem lineTokens_filled (unexplained : Option (List ScopedToken)) (pairs : List (Nat × UInt32)) :
    ∀ t ∈ p.lineTokens line unexplained pairs, t.content ≠ "" := by
  induction pairs generalizing unexplained with
  | nil => exact fun t mem => nomatch mem
  | cons pair pairs ih =>
    intro t mem
    obtain ⟨filled, first, remaining, shown, tokens⟩ | ⟨-, tokens⟩ :=
      p.lineTokens_cons_cases line unexplained pair.1 pair.2 pairs
    · rw [tokens] at mem
      rcases List.mem_cons.mp mem with rfl | later
      · exact slice?_ne_empty shown.content filled.1
      · exact ih remaining t later
    · rw [tokens] at mem
      exact ih unexplained t mem

/-- One pair spells the line up to the start of the next pair, by a token or, where that is nothing,
by none. -/
theorem spelled_lineTokens_cons (unexplained : Option (List ScopedToken)) {start : Nat}
    (word : UInt32) (pairs : List (Nat × UInt32)) {part : String}
    (cut : slice? line start ((pairs.head?.map (·.1)).getD (byteSize line)) = some part) :
    ∃ remaining, spelled (p.lineTokens line unexplained ((start, word) :: pairs)) =
      part ++ spelled (p.lineTokens line remaining pairs) := by
  obtain ⟨-, t, remaining, shown, tokens⟩ | ⟨blank, tokens⟩ :=
    p.lineTokens_cons_cases line unexplained start word pairs
  · obtain rfl := Option.some.inj (shown.content.symm.trans cut)
    exact ⟨remaining, by rw [tokens, spelled_cons]⟩
  · have none : part = "" := by
      obtain ⟨ordered, boundaries⟩ := slice?_boundaries cut
      have size := slice?_size cut
      have narrow : ¬ start < (pairs.head?.map (·.1)).getD (byteSize line) :=
        fun wide => blank ⟨wide, boundaries⟩
      exact byteSize_eq_zero_iff.mp (by omega)
    exact ⟨unexplained, by rw [tokens, none, String.empty_append]⟩

/-- The tokens of pairs in order spell the line from the start of the first pair on. -/
theorem slice?_lineTokens (unexplained : Option (List ScopedToken)) {start : Nat} {word : UInt32}
    {pairs : List (Nat × UInt32)}
    (ordered : (((start, word) :: pairs).map Prod.fst).Pairwise (· ≤ ·))
    (boundaries : ∀ pair ∈ (start, word) :: pairs, Boundary line.toList pair.1) :
    slice? line start (byteSize line) =
      some (spelled (p.lineTokens line unexplained ((start, word) :: pairs))) := by
  have first : Boundary line.toList start := boundaries _ List.mem_cons_self
  induction pairs generalizing start word unexplained with
  | nil =>
    obtain ⟨part, cut⟩ : ∃ part, slice? line start (byteSize line) = some part :=
      exists_slice? first.le_byteLength first (boundary_byteSize line)
    obtain ⟨_, spells⟩ := p.spelled_lineTokens_cons unexplained word [] cut
    rw [spells]
    simpa [lineTokens] using cut
  | cons next pairs ih =>
    obtain ⟨low, ordered⟩ := List.pairwise_cons.mp ordered
    have second : Boundary line.toList next.1 := boundaries _ (by simp)
    obtain ⟨part, cut⟩ := exists_slice? (low next.1 (by simp)) first second
    obtain ⟨remaining, spells⟩ := p.spelled_lineTokens_cons unexplained word (next :: pairs) cut
    rw [spells]
    exact slice?_append cut
      (ih remaining ordered (fun pair mem => boundaries pair (List.mem_cons_of_mem _ mem)) second)

end Painter

end Highlight
