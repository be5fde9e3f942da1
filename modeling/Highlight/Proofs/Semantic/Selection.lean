import Highlight.Proofs.Semantic.Carving

/-!
# Which spans are applied, and what they make of a line

The specification of a splice, without its walk. A span is *applicable* to a line of tokens when it
holds text and scopes, ends on boundaries of the line, lies within one token and starts behind what
is already taken. `chosen` takes applicable spans greedily from the left. A line is then cut at the
ends of the chosen spans (`cutAt`): each token falls into the stretches between the cuts within it,
and a stretch that is a chosen span takes the look of the rule for its scopes, while every other
stretch keeps the look of its token.

The laws here are about these notions alone: how the greedy choice depends on where it starts, and
how the stretches of a token unfold from the left.
-/

namespace Highlight

/-! ## Tokens in their places -/

/-- Tokens that stand one behind the other from an offset on, each with its own offset. -/
def placed : Nat → List Token → List (Nat × Token)
  | _, [] => []
  | start, t :: ts => (start, t) :: placed (start + t.size) ts

theorem placed_append (start : Nat) (ts us : List Token) :
    placed start (ts ++ us) = placed start ts ++ placed (start + byteSize (spelled ts)) us := by
  induction ts generalizing start with
  | nil => rfl
  | cons t ts ih =>
    rw [List.cons_append, placed, placed, ih, spelled_cons, byteSize_append, List.cons_append,
      Token.size, Nat.add_assoc]

theorem placed_bounds {start : Nat} {ts : List Token} {place : Nat × Token}
    (mem : place ∈ placed start ts) :
    start ≤ place.1 ∧ place.1 + place.2.size ≤ start + byteSize (spelled ts) := by
  induction ts generalizing start with
  | nil => cases mem
  | cons t ts ih =>
    rw [spelled_cons, byteSize_append]
    rcases List.mem_cons.mp mem with rfl | later
    · simp only [Token.size]
      omega
    · have inner := ih later
      simp only [Token.size] at inner ⊢
      omega

/-- The token has its place among tokens, its text is there in the line, and no other token reaches
into it. -/
structure Stands (line : String) (places : List (Nat × Token)) (start : Nat)
    (t : Token) : Prop where
  mem : (start, t) ∈ places
  text : slice? line start (start + t.size) = some t.content
  alone : ∀ place ∈ places, place.1 < start + t.size → start < place.1 + place.2.size →
    place = (start, t)

theorem exists_of_mem_placed {start : Nat} {ts : List Token} {place : Nat × Token}
    (mem : place ∈ placed start ts) :
    ∃ before after,
      ts = before ++ place.2 :: after ∧ place.1 = start + byteSize (spelled before) := by
  induction ts generalizing start with
  | nil => cases mem
  | cons t ts ih =>
    rcases List.mem_cons.mp mem with rfl | later
    · exact ⟨[], ts, rfl, rfl⟩
    · obtain ⟨before, after, rfl, here⟩ := ih later
      refine ⟨t :: before, after, rfl, ?_⟩
      rw [here, spelled_cons, byteSize_append, Token.size, Nat.add_assoc]

/-- In a list of tokens that spells the line every token stands behind what the tokens before it
spell. -/
theorem stands_of_spelled {line : String} {tokens : List Token} (spells : spelled tokens = line) :
    ∀ place ∈ placed 0 tokens, Stands line (placed 0 tokens) place.1 place.2 := by
  intro place mem
  obtain ⟨before, after, parts, here⟩ := exists_of_mem_placed mem
  rw [Nat.zero_add] at here
  refine ⟨mem, ?_, ?_⟩
  · refine slice?_eq_some_iff.mpr ⟨(spelled before).toList, (spelled after).toList, ?_,
      here.symm, rfl⟩
    rw [← spells, parts, spelled_append, spelled_cons]
    simp
  · intro other found low high
    rw [parts, placed_append, placed, Nat.zero_add, ← here] at found
    rcases List.mem_append.mp found with front | found
    · have bounds := placed_bounds front
      omega
    · rcases List.mem_cons.mp found with same | back
      · exact same
      · have bounds := placed_bounds back
        omega

/-! ## The greedy choice -/

/-- The span may be applied to a line of tokens of which all before `floor` is taken. -/
structure Span.Applicable (span : Span) (line : String) (places : List (Nat × Token))
    (floor : Nat) : Prop where
  filled : span.start < span.stop
  named : span.scopes ≠ []
  first : Boundary line.toList span.start
  last : Boundary line.toList span.stop
  inside : ∃ place ∈ places, place.1 ≤ span.start ∧ span.stop ≤ place.1 + place.2.size
  free : floor ≤ span.start

theorem Span.applicable_iff {span : Span} {line : String} {places : List (Nat × Token)}
    {floor : Nat} :
    span.Applicable line places floor ↔
      span.start < span.stop ∧ span.scopes ≠ [] ∧ Boundary line.toList span.start ∧
        Boundary line.toList span.stop ∧
        (∃ place ∈ places, place.1 ≤ span.start ∧ span.stop ≤ place.1 + place.2.size) ∧
        floor ≤ span.start :=
  ⟨fun ⟨filled, named, first, last, inside, free⟩ => ⟨filled, named, first, last, inside, free⟩,
    fun ⟨filled, named, first, last, inside, free⟩ => ⟨filled, named, first, last, inside, free⟩⟩

instance (span : Span) (line : String) (places : List (Nat × Token)) (floor : Nat) :
    Decidable (span.Applicable line places floor) :=
  decidable_of_iff _ Span.applicable_iff.symm

/-- The spans that are applied: from the left, each applicable one behind the last one taken. -/
def chosen (line : String) (places : List (Nat × Token)) : (floor : Nat) → List Span → List Span
  | _, [] => []
  | floor, span :: spans =>
    if span.Applicable line places floor then span :: chosen line places span.stop spans
    else chosen line places floor spans

variable {line : String} {places : List (Nat × Token)}

theorem chosen_bounds {floor : Nat} {spans : List Span} {span : Span}
    (mem : span ∈ chosen line places floor spans) :
    floor ≤ span.start ∧ span.start < span.stop := by
  induction spans generalizing floor with
  | nil => cases mem
  | cons head spans ih =>
    rw [chosen] at mem
    split at mem
    next applicable =>
      have free := applicable.free
      have filled := applicable.filled
      rcases List.mem_cons.mp mem with rfl | later
      · exact ⟨free, filled⟩
      · have bounds := ih later
        omega
    next => exact ih mem

theorem chosen_sublist (floor : Nat) (spans : List Span) :
    (chosen line places floor spans).Sublist spans := by
  induction spans generalizing floor with
  | nil => exact .slnil
  | cons span spans ih =>
    rw [chosen]
    split
    next => exact (ih span.stop).cons_cons span
    next => exact (ih floor).cons span

/-- A floor below all spans does not matter. -/
theorem chosen_eq_of_le {floor floor' : Nat} {spans : List Span}
    (above : ∀ span ∈ spans, floor ≤ span.start) (above' : ∀ span ∈ spans, floor' ≤ span.start) :
    chosen line places floor spans = chosen line places floor' spans := by
  induction spans with
  | nil => rfl
  | cons span spans ih =>
    have same : span.Applicable line places floor ↔ span.Applicable line places floor' := by
      constructor
      · intro h
        exact { h with free := above' span List.mem_cons_self }
      · intro h
        exact { h with free := above span List.mem_cons_self }
    have rest := ih (fun other mem => above other (List.mem_cons_of_mem _ mem))
      (fun other mem => above' other (List.mem_cons_of_mem _ mem))
    rw [chosen, chosen]
    simp only [same, rest]

/-- Behind the end of the line nothing is chosen. -/
theorem chosen_eq_nil {floor : Nat} {spans : List Span}
    (behind : ∀ span ∈ spans, byteSize line ≤ span.start) :
    chosen line places floor spans = [] := by
  induction spans with
  | nil => rfl
  | cons span spans ih =>
    rw [chosen, if_neg]
    · exact ih fun other mem => behind other (List.mem_cons_of_mem _ mem)
    · intro applicable
      have filled := applicable.filled
      have last : span.stop ≤ byteSize line := applicable.last.le_byteLength
      have first := behind span List.mem_cons_self
      omega

/-! ## Stretches between cuts -/

/-- Some span starts or ends here. -/
def IsCut (spans : List Span) (n : Nat) : Prop := ∃ span ∈ spans, n = span.start ∨ n = span.stop

instance (spans : List Span) (n : Nat) : Decidable (IsCut spans n) :=
  inferInstanceAs (Decidable (∃ span ∈ spans, n = span.start ∨ n = span.stop))

/-- The ends of spans strictly between two offsets, in order. -/
def cuts (spans : List Span) (low high : Nat) : List Nat :=
  (List.range' (low + 1) (high - (low + 1))).filter fun n => IsCut spans n

/-- The stretches into which cuts in order divide the text between two offsets. -/
def stretches : Nat → List Nat → Nat → List (Nat × Nat)
  | low, [], high => [(low, high)]
  | low, cut :: cuts, high => (low, cut) :: stretches cut cuts high

theorem cuts_eq_nil {spans : List Span} {low high : Nat}
    (whole : ∀ n, low < n → n < high → ¬ IsCut spans n) :
    cuts spans low high = [] := by
  rw [cuts, List.filter_eq_nil_iff]
  intro n mem
  rw [List.mem_range'_1] at mem
  simpa using whole n (by omega) (by omega)

theorem cuts_eq_cons {spans : List Span} {low n high : Nat} (after : low < n) (before : n < high)
    (cut : IsCut spans n) (least : ∀ k, low < k → k < n → ¬ IsCut spans k) :
    cuts spans low high = n :: cuts spans n high := by
  have width : high - (low + 1) = (n - (low + 1)) + (1 + (high - (n + 1))) := by omega
  have here : low + 1 + (n - (low + 1)) = n := by omega
  have none := cuts_eq_nil least
  rw [cuts] at none
  rw [cuts, width, ← List.range'_append_1, List.filter_append, none, List.nil_append, here,
    Nat.add_comm 1, List.range'_succ, List.filter_cons_of_pos (by simpa using cut), cuts]

/-- From the left, the first stretch reaches to the least cut, and the others start there. -/
theorem stretches_cuts {spans : List Span} {low n high : Nat} (after : low < n) (before : n ≤ high)
    (cut : IsCut spans n) (least : ∀ k, low < k → k < n → ¬ IsCut spans k) :
    stretches low (cuts spans low high) high =
      (low, n) :: if n = high then [] else stretches n (cuts spans n high) high := by
  by_cases last : n = high
  · subst last
    rw [if_pos rfl, cuts_eq_nil least, stretches]
  · rw [if_neg last, cuts_eq_cons after (by omega) cut least, stretches]

/-! ## A line cut at spans -/

/-- The rule for the scopes of a span. -/
def Span.rule (span : Span) (rules : List Rule) : Rule :=
  ((Theme.bestRuleOfAny? rules span.scopes).map (·.rule)).getD .blank

/-- The span that covers exactly a stretch. -/
def spanAt? (spans : List Span) (stretch : Nat × Nat) : Option Span :=
  spans.find? fun span => span.start = stretch.1 ∧ span.stop = stretch.2

/-- The stretch of a line that lies in a token: in the look of the rule for a span where it is one,
else in the look of the token. -/
def Token.dressed (t : Token) (line : String) (rules : List Rule) (spans : List Span)
    (stretch : Nat × Nat) : Token :=
  let content := (slice? line stretch.1 stretch.2).getD ""
  match spanAt? spans stretch with
  | some span => (span.rule rules).paint content
  | none => { t with content }

/-- The tokens of a line, cut at the ends of spans. -/
def cutAt (line : String) (rules : List Rule) (spans : List Span) (places : List (Nat × Token)) :
    List Token :=
  places.flatMap fun (start, t) =>
    (stretches start (cuts spans start (start + t.size)) (start + t.size)).map
      (t.dressed line rules spans)

theorem spanAt?_eq_none {spans : List Span} {stretch : Nat × Nat}
    (other : ∀ span ∈ spans, span.start = stretch.1 → span.stop ≠ stretch.2) :
    spanAt? spans stretch = none := by
  rw [spanAt?, List.find?_eq_none]
  intro span mem
  simpa using other span mem

/-! ## A choice split at an offset -/

/-- The spans hold text and end at an offset or before. -/
def Past (cursor : Nat) (spans : List Span) : Prop :=
  ∀ span ∈ spans, span.start < span.stop ∧ span.stop ≤ cursor

/-- A choice around one of its spans: what comes before ends at the cursor, what comes after starts
behind the span. -/
structure Around (cursor : Nat) (past : List Span) (span : Span) (later : List Span) : Prop where
  before : Past cursor past
  free : cursor ≤ span.start
  filled : span.start < span.stop
  behind : ∀ other ∈ later, span.stop ≤ other.start ∧ other.start < other.stop

namespace Past

variable {cursor high : Nat} {past later : List Span}

theorem cuts_gap (before : Past cursor past)
    (behind : ∀ span ∈ later, high ≤ span.start ∧ span.start < span.stop) :
    cuts (past ++ later) cursor high = [] := by
  apply cuts_eq_nil
  rintro n low up ⟨span, mem, isEnd⟩
  rcases List.mem_append.mp mem with front | back
  · have bounds := before span front
    omega
  · have bounds := behind span back
    omega

theorem spanAt?_gap (before : Past cursor past)
    (behind : ∀ span ∈ later, high ≤ span.start ∧ span.start < span.stop) :
    spanAt? (past ++ later) (cursor, high) = none := by
  apply spanAt?_eq_none
  intro span mem first last
  dsimp only at first last
  rcases List.mem_append.mp mem with front | back
  · have bounds := before span front
    omega
  · have bounds := behind span back
    omega

end Past

namespace Around

variable {cursor high : Nat} {past later : List Span} {span : Span}

theorem past_snoc (around : Around cursor past span later) : Past span.stop (past ++ [span]) := by
  have free := around.free
  have filled := around.filled
  intro other mem
  rcases List.mem_append.mp mem with front | here
  · have bounds := around.before other front
    omega
  · rw [List.mem_singleton.mp here]
    omega

theorem isCut_cases (around : Around cursor past span later) {n : Nat}
    (cut : IsCut (past ++ span :: later) n) :
    n ≤ cursor ∨ n = span.start ∨ span.stop ≤ n := by
  obtain ⟨other, mem, isEnd⟩ := cut
  rcases List.mem_append.mp mem with front | mem
  · have bounds := around.before other front
    omega
  · rcases List.mem_cons.mp mem with rfl | back
    · omega
    · have bounds := around.behind other back
      omega

theorem spanAt?_span (around : Around cursor past span later) :
    spanAt? (past ++ span :: later) (span.start, span.stop) = some span := by
  have free := around.free
  have filled := around.filled
  have front : spanAt? past (span.start, span.stop) = none := by
    apply spanAt?_eq_none
    intro other mem first
    have bounds := around.before other mem
    dsimp only at first ⊢
    omega
  rw [spanAt?] at front ⊢
  rw [List.find?_append, front, Option.none_or, List.find?_cons_of_pos (by simp)]

theorem spanAt?_lead (around : Around cursor past span later) (wide : cursor < span.start) :
    spanAt? (past ++ span :: later) (cursor, span.start) = none := by
  refine around.before.spanAt?_gap fun other mem => ?_
  have filled := around.filled
  rcases List.mem_cons.mp mem with rfl | back
  · omega
  · have bounds := around.behind other back
    omega

/-- From the cursor on there is the text before the span, the span, and what lies behind it. -/
theorem stretches_eq (around : Around cursor past span later) (inside : span.stop ≤ high) :
    stretches cursor (cuts (past ++ span :: later) cursor high) high =
      (if cursor < span.start then [(cursor, span.start)] else []) ++ (span.start, span.stop) ::
        if span.stop = high then []
        else stretches span.stop (cuts (past ++ span :: later) span.stop high) high := by
  have free := around.free
  have filled := around.filled
  have mem : span ∈ past ++ span :: later := List.mem_append_right _ List.mem_cons_self
  have tail := stretches_cuts filled inside ⟨span, mem, .inr rfl⟩ fun k low up cut => by
    have bounds := around.isCut_cases cut
    omega
  by_cases wide : cursor < span.start
  · rw [if_pos wide, ← tail, stretches_cuts wide (by omega) ⟨span, mem, .inl rfl⟩,
      if_neg (by omega), List.singleton_append]
    intro k low up cut
    have bounds := around.isCut_cases cut
    omega
  · have here : cursor = span.start := by omega
    rw [if_neg wide, here, tail, List.nil_append]

end Around

end Highlight
