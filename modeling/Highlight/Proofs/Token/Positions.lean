import Highlight.Proofs.Language.Packing
import Highlight.Proofs.Semantic.Selection
import Mathlib.Data.List.Forall2

/-!
# Tokens by position

A grammar may answer for a line with any words at all. Whatever they are, the tokens of the line are
the parts of it that the pairs speak of, in the order of the pairs, where these parts hold text and
split no character (`forall₂_lineTokens`); every other pair is passed over.

Where the pairs start at boundaries of the line, in order, nothing of the line behind the first of
them is lost, and the look of a byte is that of the last pair that starts at or before it
(`exists_placed_of_ordered`). That pair was not passed over, since the next one starts behind the
byte.
-/

namespace Highlight

/-- Word by word, a packed answer is read as offsets and words in turn. -/
theorem getElem?_wordPairs (words : List UInt32) (j : Nat) :
    (wordPairs words)[j]? =
      words[2 * j]?.bind fun offset => words[2 * j + 1]?.map fun word => (offset.toNat, word) := by
  fun_induction wordPairs words generalizing j with
  | case1 offset word rest ih =>
    cases j with
    | zero => rfl
    | succ j => simpa [Nat.mul_succ] using ih j
  | case2 words single =>
    match words with
    | [] => simp
    | [offset] => cases j <;> simp [Nat.mul_succ]
    | offset :: word :: rest => exact absurd rfl (single offset word rest)

namespace Painter

variable (p : Painter) {line : String}

/-- The tokens of a line show, one for one and in order, what the pairs speak of, where that is
text. -/
theorem forall₂_lineTokens (line : String) (unexplained : Option (List ScopedToken))
    (pairs : List (Nat × UInt32)) :
    List.Forall₂ (p.Shows line) ((extents line pairs).filter (·.Filled line))
      (p.lineTokens line unexplained pairs) := by
  induction pairs generalizing unexplained with
  | nil => exact .nil
  | cons pair pairs ih =>
    rw [extents]
    obtain ⟨filled, t, remaining, shown, tokens⟩ | ⟨blank, tokens⟩ :=
      p.lineTokens_cons_cases line unexplained pair.1 pair.2 pairs
    · rw [tokens, List.filter_cons_of_pos (by simpa using filled)]
      exact .cons shown (ih remaining)
    · rw [tokens, List.filter_cons_of_neg (by simpa using blank)]
      exact ih unexplained

/-- No token is cut through a character. -/
theorem exists_slice?_of_mem (unexplained : Option (List ScopedToken)) (pairs : List (Nat × UInt32))
    {t : Token} (mem : t ∈ p.lineTokens line unexplained pairs) :
    ∃ start stop, slice? line start stop = some t.content := by
  obtain ⟨i, inside, rfl⟩ := List.getElem_of_mem mem
  obtain ⟨length, each⟩ := List.forall₂_iff_get.mp (p.forall₂_lineTokens line unexplained pairs)
  exact ⟨_, _, (each i (length ▸ inside) inside).content⟩

section Ordered

variable {start : Nat} {word : UInt32} {pairs : List (Nat × UInt32)}
  (ordered : (((start, word) :: pairs).map Prod.fst).Pairwise (· ≤ ·))
  (boundaries : ∀ pair ∈ (start, word) :: pairs, Boundary line.toList pair.1)
include ordered boundaries

/-- The end of what the first pair speaks of: no pair starts between its start and there. -/
theorem next_of_ordered :
    start ≤ (pairs.head?.map (·.1)).getD (byteSize line) ∧
      Boundary line.toList ((pairs.head?.map (·.1)).getD (byteSize line)) ∧
      ∀ pair ∈ pairs, (pairs.head?.map (·.1)).getD (byteSize line) ≤ pair.1 := by
  rw [List.map_cons, List.pairwise_cons] at ordered
  cases pairs with
  | nil =>
    exact ⟨(boundaries _ List.mem_cons_self).le_byteLength, boundary_byteSize line,
      fun _ mem => nomatch mem⟩
  | cons next rest =>
    refine ⟨ordered.1 _ (by simp), boundaries _ (by simp), fun pair mem => ?_⟩
    rcases List.mem_cons.mp mem with rfl | later
    · exact Nat.le_refl _
    · rw [List.map_cons, List.pairwise_cons] at ordered
      exact ordered.2.1 _ (List.mem_map_of_mem later)

/-- The bytes that the first pair speaks of lie in its token. -/
theorem exists_placed_first (unexplained : Option (List ScopedToken)) {n : Nat} (low : start ≤ n)
    (high : n < (pairs.head?.map (·.1)).getD (byteSize line)) :
    ∃ place ∈ placed start (p.lineTokens line unexplained ((start, word) :: pairs)),
      place.1 ≤ n ∧ n < place.1 + place.2.size ∧
      ∃ last, wordAt? ((start, word) :: pairs) n = some last ∧ p.Wears last place.2 := by
  obtain ⟨-, boundary, behind⟩ := next_of_ordered ordered boundaries
  have named : wordAt? ((start, word) :: pairs) n = some word := by
    rw [wordAt?_cons_of_le low,
      wordAt?_eq_none fun pair mem => Nat.lt_of_lt_of_le high (behind pair mem)]
    rfl
  obtain ⟨-, t, remaining, shown, tokens⟩ | ⟨blank, -⟩ :=
    p.lineTokens_cons_cases line unexplained start word pairs
  · have size : start + t.size = _ := slice?_size shown.content
    exact ⟨(start, t), by simp [tokens, placed], low, size ▸ high, word, named, shown.toWears⟩
  · exact absurd ⟨Nat.lt_of_le_of_lt low high, boundaries _ List.mem_cons_self, boundary⟩ blank

/-- What the pairs behind the first one give stands where the first one ends. -/
theorem exists_placed_subset (unexplained : Option (List ScopedToken)) :
    ∃ remaining,
      placed ((pairs.head?.map (·.1)).getD (byteSize line)) (p.lineTokens line remaining pairs) ⊆
      placed start (p.lineTokens line unexplained ((start, word) :: pairs)) := by
  obtain ⟨reached, boundary, -⟩ := next_of_ordered ordered boundaries
  obtain ⟨-, t, remaining, shown, tokens⟩ | ⟨blank, tokens⟩ :=
    p.lineTokens_cons_cases line unexplained start word pairs
  · have size : start + t.size = _ := slice?_size shown.content
    refine ⟨remaining, ?_⟩
    rw [tokens, placed, size]
    exact List.subset_cons_self _ _
  · have here : ¬ start < (pairs.head?.map (·.1)).getD (byteSize line) := fun wide =>
      blank ⟨wide, boundaries _ List.mem_cons_self, boundary⟩
    refine ⟨unexplained, ?_⟩
    rw [tokens, Nat.le_antisymm reached (Nat.not_lt.mp here)]
    exact List.Subset.refl _

/-- Every byte behind the start of the first pair lies in a token that wears the word of the last
pair at or before it. The induction is on the pairs: the first one answers for the bytes before the
second one, if there are any. -/
theorem exists_placed_of_ordered (unexplained : Option (List ScopedToken)) {n : Nat}
    (low : start ≤ n) (high : n < byteSize line) :
    ∃ place ∈ placed start (p.lineTokens line unexplained ((start, word) :: pairs)),
      place.1 ≤ n ∧ n < place.1 + place.2.size ∧
      ∃ last, wordAt? ((start, word) :: pairs) n = some last ∧ p.Wears last place.2 := by
  induction pairs generalizing start word unexplained with
  | nil => exact p.exists_placed_first ordered boundaries unexplained low high
  | cons next rest ih =>
    by_cases early : n < next.1
    · exact p.exists_placed_first ordered boundaries unexplained low early
    · obtain ⟨remaining, inside⟩ := p.exists_placed_subset ordered boundaries unexplained
      obtain ⟨place, mem, first, last, word', named, wears⟩ := ih (List.pairwise_cons.mp ordered).2
        (fun pair mem => boundaries pair (List.mem_cons_of_mem _ mem)) remaining
        (Nat.not_lt.mp early)
      refine ⟨place, inside mem, first, last, word', ?_, wears⟩
      rw [wordAt?_cons_of_le low]
      exact (congrArg (·.or (some word)) named)

end Ordered

/-- Whatever words a grammar answers with, read in pairs, a line's tokens are the parts of the line
that the pairs speak of and that hold text, in order, each in the look of its pair; none of them is
empty or splits a character. Where the pairs start at boundaries in order, the tokens spell the line
from the first start on, and every byte from there on lies in a token with the color and the font
style of the last pair at or before it. -/
theorem lineTokens_by_position (line : String) (unexplained : Option (List ScopedToken))
    (words : List UInt32) :
    let pairs := wordPairs words
    let tokens := p.lineTokens line unexplained pairs
    (∀ j, pairs[j]? = words[2 * j]?.bind fun offset =>
      words[2 * j + 1]?.map fun word => (offset.toNat, word)) ∧
    List.Forall₂ (p.Shows line) ((extents line pairs).filter (·.Filled line)) tokens ∧
    (∀ t ∈ tokens, t.content ≠ "" ∧ ∃ start stop, slice? line start stop = some t.content) ∧
    ∀ start word rest, pairs = (start, word) :: rest → (pairs.map Prod.fst).Pairwise (· ≤ ·) →
      (∀ pair ∈ pairs, Boundary line.toList pair.1) →
      slice? line start (byteSize line) = some (spelled tokens) ∧
      ∀ n, start ≤ n → n < byteSize line →
        ∃ place ∈ placed start tokens, place.1 ≤ n ∧ n < place.1 + place.2.size ∧
          ∃ last, wordAt? pairs n = some last ∧ p.Wears last place.2 := by
  intro pairs tokens
  refine ⟨getElem?_wordPairs words, p.forall₂_lineTokens line unexplained pairs, ?_, ?_⟩
  · intro t mem
    exact ⟨p.lineTokens_filled unexplained pairs t mem,
      p.exists_slice?_of_mem unexplained pairs mem⟩
  · intro start word rest first ordered boundaries
    rw [first] at ordered boundaries
    simp only [tokens, first]
    refine ⟨p.slice?_lineTokens unexplained ordered boundaries, ?_⟩
    intro n low high
    exact p.exists_placed_of_ordered ordered boundaries unexplained low high

/-- Three pairs and a word without partner, on a line with a character of two bytes: the second pair
starts where the third does and gives no token, so the byte behind that character has the look of
the third. -/
theorem lineTokens_by_position_accented :
    let p : Painter :=
      ⟨{ name := "plain", rules := [] }, (Palette.empty.insert "#AAAAAA").insert "#0000FF"⟩
    let words : List UInt32 := [1, 16384, 3, 0, 3, 36864, 4]
    let tokens := p.lineTokens "aé b" none (wordPairs words)
    wordPairs words = [(1, 16384), (3, 0), (3, 36864)] ∧
    ((wordPairs words).map Prod.fst).Pairwise (· ≤ ·) ∧
      (∀ pair ∈ wordPairs words, Boundary "aé b".toList pair.1) ∧
      tokens = [{ content := "é", color := some "#AAAAAA" },
        { content := " b", color := some "#0000FF", fontStyle := { bold := true } }] ∧
      slice? "aé b" 1 5 = some (spelled tokens) ∧
      ∃ place ∈ placed 1 tokens, place.1 ≤ 3 ∧ 3 < place.1 + place.2.size ∧
        ∃ last, wordAt? (wordPairs words) 3 = some last ∧ p.Wears last place.2 := by
  intro p words tokens
  have pairs : wordPairs words = [(1, 16384), (3, 0), (3, 36864)] := by decide
  have ordered : ((wordPairs words).map Prod.fst).Pairwise (· ≤ ·) := by decide
  have boundaries : ∀ pair ∈ wordPairs words, Boundary "aé b".toList pair.1 := by decide +kernel
  have positions :=
    (p.lineTokens_by_position "aé b" none words).2.2.2 1 16384 _ pairs ordered boundaries
  exact ⟨pairs, ordered, boundaries, by decide +kernel, positions.1,
    positions.2 3 (by decide) (by decide +kernel)⟩

end Painter

end Highlight
