import Highlight.Proofs.Language.Walk
import Highlight.Proofs.Pattern.Literal
import Mathlib.Data.List.DropRight

/-!
# Escapes are read as a forward reader reads them

A construct that closes with one character looks for that character and counts the escape characters
directly before it, back to where the reading began. A reader that goes through the text from left
to right (`lexClose`) counts nothing: an escape character takes the next character with it, whatever
that is.

Both agree because the parity of the count is what the forward reader remembers. Behind some text
the next character is taken exactly where an odd number of escape characters stands at its end
(`pending`), and adding one character to the text changes both in the same way (`pending_concat`,
`lexClose_append`).
-/

namespace Highlight.Construct

/-- Reads on from a place with the given text behind it and the given offset, and tells the offset
behind the closing character. An escape character is passed over together with the character after
it. -/
def lexClose (closer escape : Char) : List Char → Nat → Option Nat
  | [], _ => none
  | ch :: rest, offset =>
    if ch = escape then
      match rest with
      | [] => none
      | taken :: rest => lexClose closer escape rest (offset + ch.utf8Size + taken.utf8Size)
    else if ch = closer then some (offset + ch.utf8Size)
    else lexClose closer escape rest (offset + ch.utf8Size)

/-- Reads on behind the next character. -/
def lexBehind (closer escape : Char) : List Char → Nat → Option Nat
  | [], _ => none
  | taken :: rest, offset => lexClose closer escape rest (offset + taken.utf8Size)

/-! ## The forward reader -/

section Forward

variable {closer escape : Char}

theorem lexClose_escape (rest : List Char) (offset : Nat) :
    lexClose closer escape (escape :: rest) offset =
      lexBehind closer escape rest (offset + escape.utf8Size) := by
  cases rest <;> simp [lexClose, lexBehind]

theorem lexClose_closer (distinct : closer ≠ escape) (rest : List Char) (offset : Nat) :
    lexClose closer escape (closer :: rest) offset = some (offset + closer.utf8Size) := by
  rw [lexClose.eq_def]
  simp [distinct]

theorem lexClose_other {ch : Char} (plain : ch ≠ escape) (other : ch ≠ closer) (rest : List Char)
    (offset : Nat) :
    lexClose closer escape (ch :: rest) offset =
      lexClose closer escape rest (offset + ch.utf8Size) := by
  rw [lexClose.eq_def]
  simp [plain, other]

/-- An odd number of escape characters stands at the end of the text. -/
def pending (escape : Char) (read : List Char) : Bool :=
  (read.rtakeWhile (· == escape)).length % 2 = 1

theorem pending_nil (escape : Char) : pending escape [] = false := rfl

/-- An escape character counts unless one is pending, and every other character settles what is
pending. -/
theorem pending_concat (escape : Char) (read : List Char) (ch : Char) :
    pending escape (read ++ [ch]) = (ch == escape && !pending escape read) := by
  unfold pending
  rw [List.rtakeWhile_concat]
  split
  next same =>
    rw [List.length_append, List.length_singleton, same, Bool.true_and, ← decide_not,
      decide_eq_decide]
    omega
  next other => simp [other]

/-- Where nothing is pending the text before does not matter. -/
theorem pending_append {read : List Char} (settled : pending escape read = false)
    (more : List Char) :
    pending escape (read ++ more) = pending escape more := by
  induction more using List.reverseRecOn with
  | nil => rw [List.append_nil, settled, pending_nil]
  | append_singleton more ch ih => rw [← List.append_assoc, pending_concat, pending_concat, ih]

/-- What the forward reader does behind a text without the closing character: where an escape is
pending, it takes the next character along, and else it reads on. -/
theorem lexClose_append {read : List Char} (absent : closer ∉ read) (rest : List Char)
    (offset : Nat) :
    lexClose closer escape (read ++ rest) offset =
      if pending escape read then lexBehind closer escape rest (offset + byteLength read)
      else lexClose closer escape rest (offset + byteLength read) := by
  induction read using List.reverseRecOn generalizing rest with
  | nil => rfl
  | append_singleton read ch ih =>
    obtain ⟨absent, other⟩ : closer ∉ read ∧ closer ≠ ch := by simpa using absent
    have size : offset + byteLength (read ++ [ch]) = offset + byteLength read + ch.utf8Size := by
      simp [byteLength_append, Nat.add_assoc]
    rw [List.append_assoc, List.singleton_append, ih absent, pending_concat, size]
    cases pending escape read with
    | true => simp [lexBehind]
    | false =>
      by_cases same : ch = escape
      · subst same
        simp [lexClose_escape]
      · simp [same, lexClose_other same other.symm]

end Forward

/-! ## The search for the closing character -/

section Search

variable {closer : Char} {place : Cursor}

/-- No closing character stands where the search has passed. -/
theorem not_mem_of_search? {passed back : List Char} (spells : place.rest = passed ++ back)
    (early : ∀ found ∈ (Regex.literal [closer]).search? place,
      place.offset + byteLength passed ≤ found.start.offset) : closer ∉ passed := by
  intro mem
  obtain ⟨front, behind, rfl⟩ := List.append_of_mem mem
  have stands : front ++ [closer] <+: place.rest := ⟨behind ++ back, by simp [spells]⟩
  obtain ⟨found, held, low⟩ := Regex.exists_search?_literal stands
  have high := early found held
  have := closer.utf8Size_pos
  rw [byteLength_append, byteLength_cons] at high
  omega

/-- The first closing character, with what lies before and behind it. -/
theorem search?_closer {found : Found}
    (searched : (Regex.literal [closer]).search? place = some found) :
    ∃ passed, closer ∉ passed ∧ place.rest = passed ++ closer :: found.stop.rest ∧
      found.start.before = passed.reverse ++ place.before ∧
      found.stop.before = closer :: found.start.before ∧
      found.start.offset = place.offset + byteLength passed ∧
      found.stop.offset = found.start.offset + closer.utf8Size := by
  obtain ⟨passed, spells, behind, before, offset, wide, -⟩ := Regex.search?_literal_eq_some searched
  rw [List.append_assoc] at spells
  refine ⟨passed, not_mem_of_search? spells ?_, spells, behind, by simpa using before, offset,
    by simpa using wide⟩
  intro other held
  obtain rfl := Option.some.inj (searched.symm.trans held)
  exact Nat.le_of_eq offset.symm

end Search

/-! ## Counting back and reading forward -/

theorem escapesBefore_eq {escape : Char} {start stop : Cursor} {read : List Char}
    (behind : stop.before = read.reverse ++ start.before) :
    escapesBefore escape start stop = (read.rtakeWhile (· == escape)).length := by
  simp [escapesBefore, behind, List.rtakeWhile]

/-- A match found further on is escaped where an escape is pending behind what was passed since. -/
theorem escapesBefore_odd_iff {escape : Char} {start place stop : Cursor} {read passed : List Char}
    (behind : place.before = read.reverse ++ start.before) (settled : pending escape read = false)
    (found : stop.before = passed.reverse ++ place.before) :
    escapesBefore escape start stop % 2 = 1 ↔ pending escape passed := by
  have all : stop.before = (read ++ passed).reverse ++ start.before := by
    rw [found, behind, List.reverse_append, List.append_assoc]
  rw [escapesBefore_eq all, ← pending_append settled, pending, decide_eq_true_eq]

/-- The search for a closing character that is not escaped, from any place up to which no escape is
pending, finds what a forward reader finds from there. The induction is on the search. -/
theorem closeFrom_eq_lexClose {closer escape : Char} (distinct : closer ≠ escape)
    {start place : Cursor} (read : List Char) (behind : place.before = read.reverse ++ start.before)
    (settled : pending escape read = false) :
    (closeFrom (.literal [closer]) escape start place).map (·.offset) =
      lexClose closer escape place.rest place.offset := by
  fun_induction closeFrom (.literal [closer]) escape start place generalizing read with
  | case1 place ended =>
    rw [Cursor.atEnd_iff.mp ended]
    rfl
  | case2 place text searched =>
    have absent : closer ∉ place.rest := by
      apply not_mem_of_search? (List.append_nil _).symm
      intro found held
      cases searched.symm.trans held
    rw [← List.append_nil place.rest, lexClose_append absent]
    split <;> rfl
  | case3 place text found searched even =>
    obtain ⟨passed, absent, spells, start_before, -, start_offset, stop_offset⟩ :=
      search?_closer searched
    have free : pending escape passed = false := by
      rw [← Bool.not_eq_true, ← escapesBefore_odd_iff behind settled start_before, even]
      exact Nat.zero_ne_one
    rw [spells, lexClose_append absent, ← start_offset]
    simp [free, lexClose_closer distinct, stop_offset]
  | case4 place text found searched odd ih =>
    obtain ⟨passed, absent, spells, start_before, stop_before, start_offset, stop_offset⟩ :=
      search?_closer searched
    have taken : pending escape passed :=
      (escapesBefore_odd_iff behind settled start_before).mp (Nat.mod_two_ne_zero.mp odd)
    rw [Regex.resume_of_search?_literal (List.cons_ne_nil _ _) searched] at ih ⊢
    rw [spells, lexClose_append absent, ← start_offset, taken, if_pos rfl, lexBehind, ← stop_offset]
    refine ih (read ++ passed ++ [closer]) ?_ ?_
    · rw [stop_before, start_before, behind]
      simp
    · rw [pending_concat, beq_false_of_ne distinct, Bool.false_and]

theorem closeAt?_eq_closeFrom {r : Construct} {escape : Char} (escapes : r.escape = some escape)
    (c : Cursor) : r.closeAt? c = closeFrom r.closer escape c c := by
  rw [closeAt?, escapes]
  split
  next ended => rw [closeFrom, dif_pos ended]
  next => rfl

/-- A construct that closes with one character and has another one as its escape character closes
where a forward reader finds the end, whatever the text is and wherever the reading begins. -/
theorem findClose?_eq_lexClose {r : Construct} {closer escape : Char}
    (closes : r.closer = .literal [closer]) (escapes : r.escape = some escape)
    (distinct : escape ≠ closer) (front back : String) :
    r.findClose? (front ++ back) (byteSize front) =
      lexClose closer escape back.toList (byteSize front) := by
  rw [findClose?, String.toList_append, byteSize, Cursor.seek_append, closeAt?_eq_closeFrom escapes,
    closes]
  exact closeFrom_eq_lexClose distinct.symm [] rfl (pending_nil escape)

/-- A string that is read on behind an escape character, which does not count: the first quote has
three escape characters before it and is escaped, the second one has two and closes the string. -/
theorem findClose?_eq_lexClose_string :
    ∃ r, compile? "string" "\"" "\"" .doubleString 2 (some '\\') = some r ∧
      r.closer = .literal ['"'] ∧
      r.escape = some '\\' ∧ '\\' ≠ '"' ∧
      r.findClose? ("é\\" ++ "\\\\\\\"ü\\\\\" tail") (byteSize "é\\") =
        lexClose '"' '\\' "\\\\\\\"ü\\\\\" tail".toList (byteSize "é\\") ∧
      lexClose '"' '\\' "\\\\\\\"ü\\\\\" tail".toList (byteSize "é\\") = some 12 := by
  have quote : Regex.read? "\"" = some (.literal ['"']) := Regex.read?_literal (by decide +kernel)
  refine ⟨⟨"string", .literal ['"'], .literal ['"'], .doubleString, some '\\', 2⟩, ?_, rfl, rfl,
    by decide, ?_, by decide +kernel⟩
  · rw [compile?, quote]
    rfl
  · exact findClose?_eq_lexClose rfl rfl (by decide) _ _

end Highlight.Construct
