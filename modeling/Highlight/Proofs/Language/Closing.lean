import Highlight.Proofs.Language.Escapes

/-!
# Where a construct with a longer closing text closes

A construct may close with a text of several characters. Its search looks at the occurrences of that
text from left to right, and behind an escaped one it goes on where that one ends. So an occurrence
that starts inside an escaped one is never looked at, although no escape character stands before it;
all others are (`Closes`). The construct closes at the first occurrence that is looked at and not
escaped (`findClose?_first_closes`).

Two escaped occurrences never overlap, since the character before the second one would belong to the
first one, and the closing text has no escape character (`Escaped.apart`). That is why one step of
the search skips nothing that a later step would have found escaped, and `Searched` holds at every
place where the search goes on.

A closing text that does not begin as it ends cannot overlap itself (`Unbordered`), and then no
unescaped occurrence is missed (`closes_iff_unescaped`).
-/

namespace Highlight.Construct

/-! ## Occurrences of the closing text -/

/-- The closing text stands behind the passed part of the text, with an even number of escape
characters before it. -/
structure Unescaped (closer : List Char) (escape : Char) (text passed : List Char) : Prop where
  stands : passed ++ closer <+: text
  even : (passed.rtakeWhile (· == escape)).length % 2 = 0

/-- The closing text stands behind the passed part of the text, with an odd number of escape
characters before it. -/
structure Escaped (closer : List Char) (escape : Char) (text passed : List Char) : Prop where
  stands : passed ++ closer <+: text
  odd : pending escape passed

/-- An unescaped occurrence that does not start inside an escaped one. -/
structure Closes (closer : List Char) (escape : Char) (text passed : List Char) : Prop
    extends Unescaped closer escape text passed where
  clear : ∀ earlier, Escaped closer escape text earlier → earlier.length < passed.length →
    earlier.length + closer.length ≤ passed.length

/-- The shortest passed part with a property: what lies before the first place that has it. -/
structure Foremost (property : List Char → Prop) (passed : List Char) : Prop where
  holds : property passed
  first : ∀ other, property other → passed.length ≤ other.length

/-- No beginning of the text other than the whole is also its end. -/
def Unbordered (closer : List Char) : Prop :=
  ∀ border, border ≠ [] → border <+: closer → border <:+ closer → border = closer

section Occurrences

variable {closer text : List Char} {escape : Char}

theorem unescaped_iff {passed : List Char} :
    Unescaped closer escape text passed ↔
      passed ++ closer <+: text ∧ pending escape passed = false := by
  have even : (passed.rtakeWhile (· == escape)).length % 2 = 0 ↔ pending escape passed = false := by
    rw [pending, decide_eq_false_iff_not]
    omega
  exact ⟨fun found => ⟨found.stands, even.mp found.even⟩, fun found => ⟨found.1, even.mpr found.2⟩⟩

/-- From the start of an occurrence to a place inside it the closing text begins. -/
theorem exists_lead_of_inside {passed later : List Char} (stands : passed ++ closer <+: text)
    (start : later <+: text) (behind : passed.length ≤ later.length)
    (inside : later.length ≤ passed.length + closer.length) :
    ∃ lead, later = passed ++ lead ∧ lead <+: closer := by
  have reached : later <+: passed ++ closer :=
    List.prefix_of_prefix_length_le start stands (by rw [List.length_append]; exact inside)
  obtain ⟨lead, rfl⟩ : passed <+: later :=
    List.prefix_of_prefix_length_le ((List.prefix_append _ _).trans stands) start behind
  exact ⟨lead, rfl, (List.prefix_append_right_inj passed).mp reached⟩

/-- An escaped occurrence does not start inside another occurrence: the escape character before it
would belong to the closing text. -/
theorem Escaped.apart (free : escape ∉ closer) {passed later : List Char}
    (stands : passed ++ closer <+: text) (escaped : Escaped closer escape text later)
    (behind : passed.length < later.length) :
    passed.length + closer.length ≤ later.length := by
  apply Nat.not_lt.mp
  intro inside
  obtain ⟨lead, rfl, begins⟩ :=
    exists_lead_of_inside stands ((List.prefix_append _ _).trans escaped.stands)
    (Nat.le_of_lt behind) (Nat.le_of_lt inside)
  cases lead using List.reverseRecOn with
  | nil => simp at behind
  | append_singleton lead ch =>
    have odd := escaped.odd
    rw [← List.append_assoc, pending_concat, Bool.and_eq_true, beq_iff_eq] at odd
    exact free (begins.subset (by simp [odd.1]))

/-- A closing text that does not overlap itself closes a construct wherever it is not escaped. -/
theorem closes_iff_unescaped (unbordered : Unbordered closer) {passed : List Char} :
    Closes closer escape text passed ↔ Unescaped closer escape text passed := by
  constructor
  · exact Closes.toUnescaped
  · intro found
    refine ⟨found, fun earlier escaped before => Nat.not_lt.mp fun inside => ?_⟩
    obtain ⟨lead, rfl, border, rfl⟩ := exists_lead_of_inside escaped.stands
      ((List.prefix_append _ _).trans found.stands) (Nat.le_of_lt before) (Nat.le_of_lt inside)
    simp only [List.length_append] at before inside
    -- what is left of the escaped occurrence ends the closing text, and begins it where the other
    -- occurrence stands
    have filled : border ≠ [] := by
      rintro rfl
      simp only [List.length_nil] at inside
      omega
    have stands : earlier ++ lead ++ border <+: text := by
      rw [List.append_assoc]
      exact escaped.stands
    have begins : border <+: lead ++ border :=
      (List.prefix_append_right_inj _).mp
        (List.prefix_of_prefix_length_le stands found.stands (by simp))
    have whole :=
      congrArg List.length (unbordered border filled begins (List.suffix_append lead border))
    rw [List.length_append] at whole
    omega

/-- The first place with a property is the only such place of a text. -/
theorem Foremost.unique {property : List Char → Prop}
    (inText : ∀ passed, property passed → passed <+: text) {passed passed' : List Char}
    (first : Foremost property passed) (first' : Foremost property passed') :
    passed = passed' := by
  have length := Nat.le_antisymm (first.first _ first'.holds) (first'.first _ first.holds)
  exact (List.prefix_of_prefix_length_le (inText _ first.holds) (inText _ first'.holds)
    (Nat.le_of_eq length)).eq_of_length length

end Occurrences

/-! ## The search -/

/-- The search has come from the start of the reading to a place and read the given part on the way:
no occurrence that closes was passed over, and no escaped one reaches beyond the place. -/
structure Searched (closer : List Char) (escape : Char) (start place : Cursor)
    (read : List Char) : Prop where
  rest : start.rest = read ++ place.rest
  before : place.before = read.reverse ++ start.before
  offset : place.offset = start.offset + byteLength read
  settled : ∀ earlier, Escaped closer escape start.rest earlier → earlier.length < read.length →
    earlier.length + closer.length ≤ read.length
  missed : ∀ passed, Closes closer escape start.rest passed → read.length ≤ passed.length

namespace Searched

variable {closer read : List Char} {escape : Char} {start place : Cursor}

theorem refl (closer : List Char) (escape : Char) (start : Cursor) :
    Searched closer escape start start [] where
  rest := rfl
  before := rfl
  offset := rfl
  settled _ _ before := absurd before (Nat.not_lt_zero _)
  missed _ _ := Nat.zero_le _

/-- An occurrence behind what is read is one of the rest. -/
theorem exists_stands (searched : Searched closer escape start place read) {passed : List Char}
    (stands : passed ++ closer <+: start.rest) (behind : read.length ≤ passed.length) :
    ∃ more, passed = read ++ more ∧ more ++ closer <+: place.rest := by
  have start : read <+: start.rest := ⟨place.rest, searched.rest.symm⟩
  obtain ⟨more, rfl⟩ : read <+: passed :=
    List.prefix_of_prefix_length_le start ((List.prefix_append _ _).trans stands) behind
  rw [searched.rest, List.append_assoc] at stands
  exact ⟨more, rfl, (List.prefix_append_right_inj read).mp stands⟩

/-- Where the closing text does not occur any more, the construct does not close. -/
theorem not_closes (searched : Searched closer escape start place read)
    (absent : (Regex.literal closer).search? place = none) (passed : List Char) :
    ¬ Closes closer escape start.rest passed := by
  intro closes
  obtain ⟨more, rfl, stands⟩ := searched.exists_stands closes.stands (searched.missed passed closes)
  obtain ⟨found, present, -⟩ := Regex.exists_search?_literal stands
  cases absent.symm.trans present

/-- The next occurrence, with what is passed up to it. -/
theorem exists_found (searched : Searched closer escape start place read) {found : Found}
    (next : (Regex.literal closer).search? place = some found) :
    ∃ passed, start.rest = passed ++ closer ++ found.stop.rest ∧ read.length ≤ passed.length ∧
      found.start.before = passed.reverse ++ start.before ∧
      found.stop.before = (passed ++ closer).reverse ++ start.before ∧
      found.stop.offset = start.offset + byteLength (passed ++ closer) ∧
      ∀ other, other ++ closer <+: start.rest → read.length ≤ other.length →
        passed.length ≤ other.length := by
  obtain ⟨more, rest, start_before, stop_before, start_offset, stop_offset, first⟩ :=
    Regex.search?_literal_eq_some next
  refine ⟨read ++ more, ?_, by simp, ?_, ?_, ?_, ?_⟩
  · rw [searched.rest, rest]
    simp
  · rw [start_before, searched.before]
    simp
  · rw [stop_before, start_before, searched.before]
    simp
  · rw [stop_offset, start_offset, searched.offset]
    simp [byteLength_append, Nat.add_assoc]
  · intro other stands behind
    obtain ⟨more', rfl, stands'⟩ := searched.exists_stands stands behind
    simpa using first more' stands'

section Found

variable (searched : Searched closer escape start place read) {passed : List Char}
  (stands : passed ++ closer <+: start.rest) (behind : read.length ≤ passed.length)
  (first : ∀ other, other ++ closer <+: start.rest → read.length ≤ other.length →
    passed.length ≤ other.length)
include searched stands behind first

/-- An occurrence that is found and not escaped is the first one that closes. -/
theorem foremost (even : pending escape passed = false) :
    Foremost (Closes closer escape start.rest) passed where
  holds := by
    refine ⟨unescaped_iff.mpr ⟨stands, even⟩, fun earlier escaped before => ?_⟩
    -- no occurrence stands between what is read and the one that is found
    have old : earlier.length < read.length := Nat.not_le.mp fun new =>
      Nat.not_le.mpr before (first earlier escaped.stands new)
    exact Nat.le_trans (searched.settled earlier escaped old) behind
  first other closes := first other closes.stands (searched.missed other closes)

/-- Behind an occurrence that is found escaped the search goes on. -/
theorem resume (free : escape ∉ closer) (odd : pending escape passed) {next : Cursor}
    (rest : start.rest = passed ++ closer ++ next.rest)
    (before : next.before = (passed ++ closer).reverse ++ start.before)
    (offset : next.offset = start.offset + byteLength (passed ++ closer)) :
    Searched closer escape start next (passed ++ closer) where
  rest := rest
  before := before
  offset := offset
  settled earlier escaped inside := by
    rw [List.length_append] at inside ⊢
    by_cases old : earlier.length < read.length
    · have := searched.settled earlier escaped old
      omega
    · have := first earlier escaped.stands (Nat.not_lt.mp old)
      rcases Nat.lt_or_eq_of_le this with later | here
      · have := escaped.apart free stands later
        omega
      · omega
  missed other closes := by
    have least := first other closes.stands (searched.missed other closes)
    rcases Nat.lt_or_eq_of_le least with later | here
    · rw [List.length_append]
      exact closes.clear passed ⟨stands, odd⟩ later
    · have same : passed = other :=
        (List.prefix_of_prefix_length_le ((List.prefix_append _ _).trans stands)
          ((List.prefix_append _ _).trans closes.stands) least).eq_of_length here
      have even := (unescaped_iff.mp closes.toUnescaped).2
      rw [← same, odd] at even
      cases even

end Found

end Searched

/-- The answer is the offset behind the first occurrence that closes, and is absent where none
does. -/
def Tells (closer : List Char) (escape : Char) (start : Cursor) : Option Nat → Prop
  | none => ∀ passed, ¬ Closes closer escape start.rest passed
  | some stop => ∃ passed, Foremost (Closes closer escape start.rest) passed ∧
      start.offset + byteLength (passed ++ closer) = stop

section Tells

variable {closer : List Char} {escape : Char} {start : Cursor} {answer : Option Nat}

theorem Tells.eq_none_iff (tells : Tells closer escape start answer) :
    answer = none ↔ ∀ passed, ¬ Closes closer escape start.rest passed := by
  constructor
  · rintro rfl
    exact tells
  · intro never
    cases answer with
    | none => rfl
    | some stop =>
      obtain ⟨passed, first, -⟩ := tells
      exact absurd first.holds (never passed)

theorem Tells.eq_some_iff (tells : Tells closer escape start answer) {stop : Nat} :
    answer = some stop ↔ ∃ passed, Foremost (Closes closer escape start.rest) passed ∧
      start.offset + byteLength (passed ++ closer) = stop := by
  constructor
  · rintro rfl
    exact tells
  · rintro ⟨passed, first, rfl⟩
    cases answer with
    | none => exact absurd first.holds (tells passed)
    | some stop =>
      obtain ⟨passed', first', rfl⟩ := tells
      rw [first.unique (fun _ closes => (List.prefix_append _ _).trans closes.stands) first']

end Tells

/-- From every place that the search comes to, it finds the first occurrence that closes. The
induction is on the search. -/
theorem closeFrom_tells {closer : List Char} {escape : Char} (filled : closer ≠ [])
    (free : escape ∉ closer) {start place : Cursor} {read : List Char}
    (searched : Searched closer escape start place read) :
    Tells closer escape start
      ((closeFrom (.literal closer) escape start place).map (·.offset)) := by
  fun_induction closeFrom (.literal closer) escape start place generalizing read with
  | case1 place ended =>
    intro passed closes
    obtain ⟨more, rfl, stands⟩ :=
      searched.exists_stands closes.stands (searched.missed passed closes)
    rw [Cursor.atEnd_iff.mp ended, List.prefix_nil, List.append_eq_nil_iff] at stands
    exact filled stands.2
  | case2 place text absent => exact searched.not_closes absent
  | case3 place text found next even =>
    obtain ⟨passed, rest, behind, start_before, -, stop_offset, first⟩ := searched.exists_found next
    have stands : passed ++ closer <+: start.rest := ⟨found.stop.rest, rest.symm⟩
    rw [escapesBefore_eq start_before] at even
    have closes := searched.foremost stands behind first (unescaped_iff.mp ⟨stands, even⟩).2
    exact ⟨passed, closes, stop_offset.symm⟩
  | case4 place text found next odd ih =>
    obtain ⟨passed, rest, behind, start_before, stop_before, stop_offset, first⟩ :=
      searched.exists_found next
    have stands : passed ++ closer <+: start.rest := ⟨found.stop.rest, rest.symm⟩
    rw [escapesBefore_eq start_before] at odd
    have escaped : pending escape passed := decide_eq_true (Nat.mod_two_ne_zero.mp odd)
    rw [Regex.resume_of_search?_literal filled next] at ih ⊢
    exact ih (searched.resume stands behind first free escaped rest stop_before stop_offset)

/-- A construct with an escape character closes at the first unescaped occurrence of its closing
text that does not start inside an escaped one, and stays open where there is none; the closing text
is any text without the escape character. Where it cannot overlap itself, that is the first
unescaped occurrence of all. -/
theorem findClose?_first_closes {r : Construct} {closer : List Char} {escape : Char}
    (closes : r.closer = .literal closer) (filled : closer ≠ []) (escapes : r.escape = some escape)
    (free : escape ∉ closer) (front back : String) :
    (∀ stop, r.findClose? (front ++ back) (byteSize front) = some stop ↔
      ∃ passed, Foremost (Closes closer escape back.toList) passed ∧
        byteSize front + byteLength (passed ++ closer) = stop) ∧
    (r.findClose? (front ++ back) (byteSize front) = none ↔
      ∀ passed, ¬ Closes closer escape back.toList passed) ∧
    (Unbordered closer → ∀ passed,
      Closes closer escape back.toList passed ↔ Unescaped closer escape back.toList passed) := by
  let start : Cursor := ⟨front.toList.reverse, back.toList, byteSize front⟩
  have tells : Tells closer escape start (r.findClose? (front ++ back) (byteSize front)) := by
    rw [findClose?, String.toList_append, byteSize, Cursor.seek_append,
      closeAt?_eq_closeFrom escapes, closes]
    exact closeFrom_tells filled free (.refl closer escape start)
  exact ⟨fun stop => tells.eq_some_iff, tells.eq_none_iff,
    fun unbordered passed => closes_iff_unescaped unbordered⟩

theorem compile?_triple :
    compile? "triple" "\"\"\"" "\"\"\"" .tripleString 1 (some '\\') = some
      ⟨"triple", .literal ['"', '"', '"'], .literal ['"', '"', '"'], .tripleString,
        some '\\', 1⟩ := by
  have quotes : Regex.read? "\"\"\"" = some (.literal ['"', '"', '"']) :=
    Regex.read?_literal (by decide +kernel)
  rw [compile?, quotes]
  rfl

/-- A string in triple quotes, read on behind its opening: the first quotes are escaped, and the
three that start inside them are passed over, so the string closes with the last three. -/
theorem findClose?_first_closes_triple :
    ∃ r, compile? "triple" "\"\"\"" "\"\"\"" .tripleString 1 (some '\\') = some r ∧
      r.closer = .literal ['"', '"', '"'] ∧ ['"', '"', '"'] ≠ [] ∧ r.escape = some '\\' ∧
      '\\' ∉ ['"', '"', '"'] ∧
      r.findClose? ("é" ++ "\\\"\"\"\" \"\"\"") (byteSize "é") = some 11 ∧
      ∃ passed, Foremost (Closes ['"', '"', '"'] '\\' "\\\"\"\"\" \"\"\"".toList) passed ∧
        byteSize "é" + byteLength (passed ++ ['"', '"', '"']) = 11 := by
  let r : Construct :=
    ⟨"triple", .literal ['"', '"', '"'], .literal ['"', '"', '"'], .tripleString, some '\\', 1⟩
  have answer : r.findClose? ("é" ++ "\\\"\"\"\" \"\"\"") (byteSize "é") = some 11 := by
    decide +kernel
  refine ⟨r, compile?_triple, rfl, by decide, rfl, by decide, answer, ?_⟩
  exact ((findClose?_first_closes rfl (by decide) rfl (by decide) _ _).1 11).mp answer

/-- Four quotes behind an escape character end in three that are not escaped, but the search misses
them: they start inside the first three. -/
theorem findClose?_misses_inner_quotes :
    ∃ r, compile? "triple" "\"\"\"" "\"\"\"" .tripleString 1 (some '\\') = some r ∧
      r.closer = .literal ['"', '"', '"'] ∧ r.escape = some '\\' ∧
      Foremost (Unescaped ['"', '"', '"'] '\\' "\\\"\"\"\"".toList) ['\\', '"'] ∧
      r.findClose? "\\\"\"\"\"" 0 = none := by
  refine ⟨_, compile?_triple, rfl, rfl, ?_, by decide +kernel⟩
  refine ⟨⟨by decide, by decide⟩, ?_⟩
  rintro other ⟨stands, even⟩
  match other with
  | [] => exact absurd stands (by decide)
  | [ch] =>
    obtain ⟨back, spells⟩ := stands
    obtain rfl : ch = '\\' := (List.cons.inj spells).1
    exact absurd even (by decide)
  | _ :: _ :: rest => exact Nat.le_add_left 2 rest.length

end Highlight.Construct
