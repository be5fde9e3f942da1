import Highlight.Proofs.Text.Breaks
import Highlight.Proofs.Text.Slices

/-!
# A text falls into lines in one way

Lines without carriage returns and line feeds, with a terminator behind each but the last, spell a
text. A text could be taken apart in two ways only where a carriage return stands before a line
feed, as one terminator or as two with an empty line between; a decomposition (`FallsInto`) always
takes them as one.

Then a decomposition is known from the text: its first line is all that stands before the first
break (`takeWhile_of_oneLine`), and the terminator behind it is known from the next two characters
(`LineBreak.eq_of_append`). `splitLines` gives one (`exists_fallsInto_linesFrom`), so it gives the
only one.

`cutLines` finds the lines by the bytes of the text, with two indices, and cuts each line out of the
text. A cut within a character would leave it without an answer, but a byte that ends a line is a
character of its own (`toNat_eq_of_mem_utf8EncodeChar`), so it answers on every text, with the same
lines (`cutLines_eq`).
-/

namespace Highlight

/-- What ends a line. -/
inductive LineBreak where
  | crlf
  | cr
  | lf
deriving Repr, DecidableEq

/-- The characters of a terminator. -/
def LineBreak.text : LineBreak → String
  | .crlf => "\r\n"
  | .cr => "\r"
  | .lf => "\n"

/-- Lines one behind the other, with terminators between them as far as there are some. -/
def interleave : List String → List LineBreak → String
  | [], _ => ""
  | line :: lines, [] => line ++ interleave lines []
  | line :: lines, b :: breaks => line ++ b.text ++ interleave lines breaks

/-- The line has no carriage return and no line feed. -/
def OneLine (line : String) : Prop := '\r' ∉ line.toList ∧ '\n' ∉ line.toList

/-- The text is made of these lines with these terminators between them, and no terminator is a
carriage return with a line feed behind it. -/
structure FallsInto (text : String) (lines : List String) (breaks : List LineBreak) : Prop where
  count : lines.length = breaks.length + 1
  oneLine : ∀ line ∈ lines, OneLine line
  spells : text = interleave lines breaks
  whole : ∀ i, breaks[i]? = some .cr →
    (interleave (lines.drop (i + 1)) (breaks.drop (i + 1))).toList.head? ≠ some '\n'

/-- Bytes of the lines and terminators before a line. -/
def lineStart (lines : List String) (breaks : List LineBreak) (i : Nat) : Nat :=
  byteSize (String.join (lines.take i)) +
    byteSize (String.join ((breaks.take i).map LineBreak.text))

@[simp] theorem lineStart_zero (lines : List String) (breaks : List LineBreak) :
    lineStart lines breaks 0 = 0 := rfl

theorem lineStart_succ (line : String) (lines : List String) (b : LineBreak)
    (breaks : List LineBreak) (i : Nat) :
    lineStart (line :: lines) (b :: breaks) (i + 1) =
      byteSize (line ++ b.text) + lineStart lines breaks i := by
  simp only [lineStart, List.take_succ_cons, List.map_cons, String.join_cons, byteSize_append]
  omega

/-! ## Decompositions from the left -/

section Decompositions

variable {text : String} {lines : List String} {breaks : List LineBreak}

theorem fallsInto_nil_iff : FallsInto text lines [] ↔ lines = [text] ∧ OneLine text := by
  constructor
  · rintro ⟨count, oneLine, rfl, -⟩
    obtain ⟨line, rfl⟩ := List.length_eq_one_iff.mp count
    have same : interleave [line] [] = line := String.append_empty
    rw [same]
    exact ⟨rfl, oneLine line List.mem_cons_self⟩
  · rintro ⟨rfl, oneLine⟩
    exact ⟨rfl, by simpa using oneLine, String.append_empty.symm, fun i none => nomatch none⟩

theorem fallsInto_cons_iff {line : String} {b : LineBreak} :
    FallsInto text (line :: lines) (b :: breaks) ↔
      OneLine line ∧ ∃ rest, text = line ++ b.text ++ rest ∧ FallsInto rest lines breaks ∧
        (b = .cr → rest.toList.head? ≠ some '\n') := by
  constructor
  · rintro ⟨count, oneLine, spells, whole⟩
    obtain ⟨first, others⟩ := List.forall_mem_cons.mp oneLine
    refine ⟨first, interleave lines breaks, spells, ⟨Nat.succ.inj count, others, rfl, ?_⟩, ?_⟩
    · intro i single
      exact whole (i + 1) single
    · rintro rfl
      exact whole 0 rfl
  · rintro ⟨first, rest, rfl, ⟨count, others, rfl, whole⟩, apart⟩
    refine ⟨congrArg (· + 1) count, List.forall_mem_cons.mpr ⟨first, others⟩, rfl, ?_⟩
    intro i single
    cases i with
    | zero => exact apart (Option.some.inj single)
    | succ i => exact whole i single

/-- In a decomposition with terminators the first line is followed by the first of them. -/
theorem FallsInto.exists_cons {b : LineBreak} (falls : FallsInto text lines (b :: breaks)) :
    ∃ line others, lines = line :: others := by
  cases lines with
  | nil => cases falls.count
  | cons line others => exact ⟨line, others, rfl⟩

/-- Lines stand at boundaries of the text, each behind the lines and terminators before it. -/
theorem FallsInto.slice?_line (falls : FallsInto text lines breaks) {i : Nat} {line : String}
    (found : lines[i]? = some line) :
    slice? text (lineStart lines breaks i) (lineStart lines breaks i + byteSize line) =
      some line := by
  induction breaks generalizing text lines i with
  | nil =>
    obtain ⟨rfl, -⟩ := fallsInto_nil_iff.mp falls
    obtain ⟨rfl, rfl⟩ : i = 0 ∧ text = line := by simpa [List.getElem?_singleton] using found
    simp
  | cons b breaks ih =>
    obtain ⟨first, others, rfl⟩ := falls.exists_cons
    obtain ⟨-, rest, rfl, falls, -⟩ := fallsInto_cons_iff.mp falls
    cases i with
    | zero =>
      obtain rfl : first = line := Option.some.inj found
      exact slice?_eq_some_iff.mpr ⟨[], (b.text ++ rest).toList, by simp, rfl, by simp⟩
    | succ i =>
      obtain ⟨front, back, spells, size, -⟩ := slice?_eq_some_iff.mp (ih falls found)
      refine slice?_eq_some_iff.mpr ⟨(first ++ b.text).toList ++ front, back,
        by simp [spells], ?_, rfl⟩
      rw [byteLength_append, size, lineStart_succ]
      rfl

end Decompositions

/-! ## There is no other decomposition -/

/-- What stands before the first break is the first line. -/
theorem takeWhile_of_oneLine {line : String} (oneLine : OneLine line) {back : List Char}
    (ends : ∀ c ∈ back.head?, isBreak c) :
    (line.toList ++ back).takeWhile (!isBreak ·) = line.toList := by
  have inside : ∀ c ∈ line.toList, (!isBreak c) = true := by
    intro c mem
    have notReturn : c ≠ '\r' := fun same => oneLine.1 (same ▸ mem)
    have notFeed : c ≠ '\n' := fun same => oneLine.2 (same ▸ mem)
    simp [isBreak, notReturn, notFeed]
  rw [List.takeWhile_append_of_pos inside]
  cases back with
  | nil => simp
  | cons c back => simp [ends c rfl]

namespace LineBreak

theorem isBreak_of_head? (b : LineBreak) (rest : List Char) :
    ∀ c ∈ (b.text.toList ++ rest).head?, isBreak c := by
  cases b <;> simp [text, isBreak]

/-- A terminator and what follows it are known from what they spell. -/
theorem eq_of_append {b b' : LineBreak} {rest rest' : List Char}
    (same : b.text.toList ++ rest = b'.text.toList ++ rest')
    (apart : b = .cr → rest.head? ≠ some '\n') (apart' : b' = .cr → rest'.head? ≠ some '\n') :
    b = b' ∧ rest = rest' := by
  have paired {rest rest' : List Char} (same : '\r' :: '\n' :: rest = '\r' :: rest') :
      rest'.head? = some '\n' := by
    rw [← (List.cons.inj same).2]
    rfl
  cases b <;> cases b'
  case crlf.cr => exact absurd (paired same) (apart' rfl)
  case cr.crlf => exact absurd (paired same.symm) (apart rfl)
  all_goals simp_all [text]

/-- A line with its terminator and what follows are known from what they spell. -/
theorem line_eq_of_append {line line' : String} (oneLine : OneLine line) (oneLine' : OneLine line')
    {b b' : LineBreak} {rest rest' : String}
    (same : line ++ b.text ++ rest = line' ++ b'.text ++ rest')
    (apart : b = .cr → rest.toList.head? ≠ some '\n')
    (apart' : b' = .cr → rest'.toList.head? ≠ some '\n') :
    line = line' ∧ b = b' ∧ rest = rest' := by
  have spells : line.toList ++ (b.text.toList ++ rest.toList) =
      line'.toList ++ (b'.text.toList ++ rest'.toList) := by
    simpa using congrArg String.toList same
  have first : line.toList = line'.toList := by
    rw [← takeWhile_of_oneLine oneLine (b.isBreak_of_head? rest.toList), spells,
      takeWhile_of_oneLine oneLine' (b'.isBreak_of_head? rest'.toList)]
  rw [first, List.append_cancel_left_eq] at spells
  obtain ⟨ended, behind⟩ := eq_of_append spells apart apart'
  exact ⟨String.toList_inj.mp first, ended, String.toList_inj.mp behind⟩

end LineBreak

section Decompositions

variable {text : String} {lines lines' : List String} {breaks breaks' : List LineBreak}

/-- A text with a terminator is no single line. -/
theorem FallsInto.not_oneLine {b : LineBreak} (falls : FallsInto text lines (b :: breaks)) :
    ¬ OneLine text := by
  obtain ⟨line, others, rfl⟩ := falls.exists_cons
  obtain ⟨-, rest, rfl, -, -⟩ := fallsInto_cons_iff.mp falls
  cases b <;> simp [OneLine, LineBreak.text]

/-- Two decompositions of a text are the same. The induction is over both: they agree on the first
line and its terminator, and what is left of the text falls apart in two ways again. -/
theorem FallsInto.unique (falls : FallsInto text lines breaks)
    (falls' : FallsInto text lines' breaks') :
    lines = lines' ∧ breaks = breaks' := by
  induction breaks generalizing text lines lines' breaks' with
  | nil =>
    obtain ⟨rfl, oneLine⟩ := fallsInto_nil_iff.mp falls
    cases breaks' with
    | nil => exact ⟨(fallsInto_nil_iff.mp falls').1.symm, rfl⟩
    | cons b' breaks' => exact absurd oneLine falls'.not_oneLine
  | cons b breaks ih =>
    cases breaks' with
    | nil => exact absurd (fallsInto_nil_iff.mp falls').2 falls.not_oneLine
    | cons b' breaks' =>
      obtain ⟨line, others, rfl⟩ := falls.exists_cons
      obtain ⟨line', others', rfl⟩ := falls'.exists_cons
      obtain ⟨oneLine, rest, rfl, falls, apart⟩ := fallsInto_cons_iff.mp falls
      obtain ⟨oneLine', rest', same, falls', apart'⟩ := fallsInto_cons_iff.mp falls'
      obtain ⟨rfl, rfl, rfl⟩ := LineBreak.line_eq_of_append oneLine oneLine' same apart apart'
      obtain ⟨rfl, rfl⟩ := ih falls falls'
      exact ⟨rfl, rfl⟩

end Decompositions

/-! ## The lines of a text -/

/-- A line and a terminator in front of a text that falls into lines. -/
theorem FallsInto.behind {line cs : List Char} {lines : List String} {breaks : List LineBreak}
    (falls : FallsInto (String.ofList cs) lines breaks) (oneLine : OneLine (String.ofList line))
    (b : LineBreak) (apart : b = .cr → cs.head? ≠ some '\n') :
    FallsInto (String.ofList (line ++ (b.text.toList ++ cs))) (String.ofList line :: lines)
      (b :: breaks) := by
  refine fallsInto_cons_iff.mpr ⟨oneLine, String.ofList cs, ?_, falls, by simpa using apart⟩
  simp [String.ofList_append, String.append_assoc]

/-- What is read on behind the beginning of a line falls, with that beginning, into the lines that
are found. -/
theorem exists_fallsInto_linesFrom (line : List Char)
    (oneLine : OneLine (String.ofList line.reverse)) (cs : List Char) :
    ∃ breaks,
      FallsInto (String.ofList (line.reverse ++ cs))
        ((linesFrom line cs).map String.ofList) breaks := by
  have blank : OneLine (String.ofList [].reverse) := by simp [OneLine]
  fun_induction linesFrom line cs with
  | case1 line => exact ⟨[], fallsInto_nil_iff.mpr ⟨by simp, by simpa using oneLine⟩⟩
  | case2 line cs ih =>
    obtain ⟨breaks, falls⟩ := ih blank
    exact ⟨.crlf :: breaks, falls.behind oneLine .crlf (by simp)⟩
  | case3 line c cs lone ends ih =>
    obtain ⟨breaks, falls⟩ := ih blank
    rcases ends with rfl | rfl
    · exact ⟨.lf :: breaks, falls.behind oneLine .lf (by simp)⟩
    · refine ⟨.cr :: breaks, falls.behind oneLine .cr fun _ head => ?_⟩
      obtain ⟨rest, rfl⟩ := List.head?_eq_some_iff.mp head
      exact lone rest rfl rfl
  | case4 line c cs _ goes ih =>
    obtain ⟨notFeed, notReturn⟩ := not_or.mp goes
    have longer : OneLine (String.ofList (c :: line).reverse) := by
      simpa [OneLine, Ne.symm notFeed, Ne.symm notReturn] using oneLine
    simpa using ih longer

/-! ## Reading bytes -/

/-- Where the next line starts, if a terminator stands at byte `i`. -/
def behindBreak? (bytes : List UInt8) (i : Nat) : Option Nat :=
  match bytes[i]? with
  | some 10 => some (i + 1)
  | some 13 => some (if bytes[i + 1]? = some 10 then i + 2 else i + 1)
  | _ => none

theorem lt_of_behindBreak? {bytes : List UInt8} {i next : Nat}
    (ends : behindBreak? bytes i = some next) : i < next := by
  unfold behindBreak? at ends
  split at ends
  · cases ends
    omega
  · cases ends
    split <;> omega
  · cases ends

theorem behindBreak?_of_length_le {bytes : List UInt8} {i : Nat} (past : bytes.length ≤ i) :
    behindBreak? bytes i = none := by
  rw [behindBreak?, List.getElem?_eq_none past]

/-- Reads on at byte `i` with the current line from byte `start` on. There is no answer where a
line would be cut within a character. -/
def cutFrom (text : String) (bytes : List UInt8) (start i : Nat) : Option (List String) :=
  if i < bytes.length then
    match ends : behindBreak? bytes i with
    | some next => do
      let line ← slice? text start i
      let lines ← cutFrom text bytes next next
      return line :: lines
    | none => cutFrom text bytes start (i + 1)
  else do
    let line ← slice? text start bytes.length
    return [line]
termination_by bytes.length - i
decreasing_by
  · have later := lt_of_behindBreak? ends
    omega
  · omega

/-- The bytes of a text. -/
def utf8 (text : String) : List UInt8 := text.toUTF8.data.toList

/-- The lines of a text, found by its bytes and cut out of it at two offsets each. -/
def cutLines (text : String) : Option (List String) := cutFrom text (utf8 text) 0 0

theorem utf8_eq (text : String) : utf8 text = text.toList.flatMap String.utf8EncodeChar := by
  have same : utf8 (String.ofList text.toList) = text.toList.flatMap String.utf8EncodeChar :=
    List.toList_data_toByteArray
  rwa [String.ofList_toList] at same

theorem length_flatMap_utf8EncodeChar (cs : List Char) :
    (cs.flatMap String.utf8EncodeChar).length = byteLength cs := by
  induction cs with
  | nil => rfl
  | cons c cs ih =>
    rw [List.flatMap_cons, List.length_append, String.length_utf8EncodeChar, ih, byteLength_cons]

theorem length_utf8 (text : String) : (utf8 text).length = byteSize text := by
  rw [utf8_eq, length_flatMap_utf8EncodeChar, byteSize]

/-- A byte below 128 is a character of its own. -/
theorem toNat_eq_of_mem_utf8EncodeChar {c : Char} {b : UInt8} (mem : b ∈ String.utf8EncodeChar c)
    (low : b.toNat < 128) : c.toNat = b.toNat := by
  have code : c.val.toNat = c.toNat := rfl
  simp only [String.utf8EncodeChar, code] at mem
  split at mem
  · simp only [List.mem_singleton] at mem
    rw [mem, UInt8.toNat_ofNat']
    omega
  · repeat' split at mem
    all_goals
      simp only [List.mem_cons, List.not_mem_nil, or_false, ← UInt8.toNat_inj,
        UInt8.toNat_ofNat'] at mem
      omega

theorem eq_feed_of_mem {c : Char} (mem : 10 ∈ String.utf8EncodeChar c) : c = '\n' :=
  Char.toNat_inj.mp (toNat_eq_of_mem_utf8EncodeChar mem (by decide))

theorem eq_return_of_mem {c : Char} (mem : 13 ∈ String.utf8EncodeChar c) : c = '\r' :=
  Char.toNat_inj.mp (toNat_eq_of_mem_utf8EncodeChar mem (by decide))

theorem head?_of_getElem?_zero {cs : List Char}
    (first : (cs.flatMap String.utf8EncodeChar)[0]? = some 10) : cs.head? = some '\n' := by
  cases cs with
  | nil => cases first
  | cons c cs =>
    have filled : 0 < (String.utf8EncodeChar c).length := by
      rw [String.length_utf8EncodeChar]
      exact c.utf8Size_pos
    rw [List.flatMap_cons, List.getElem?_append_left filled] at first
    rw [List.head?_cons, eq_feed_of_mem (List.mem_of_getElem? first)]

section Bytes

variable {text : String} {front back : List Char}

/-- Behind the characters in front stand the bytes of the others. -/
theorem getElem?_utf8 (parts : text.toList = front ++ back) (k : Nat) :
    (utf8 text)[byteLength front + k]? = (back.flatMap String.utf8EncodeChar)[k]? := by
  rw [utf8_eq, parts, List.flatMap_append, ← length_flatMap_utf8EncodeChar,
    List.getElem?_append_right (Nat.le_add_right _ _), Nat.add_sub_cancel_left]

/-- A terminator is told from its first byte and, behind a carriage return, from the next one. -/
theorem behindBreak?_of_break {b : LineBreak}
    (parts : text.toList = front ++ (b.text.toList ++ back))
    (apart : b = .cr → back.head? ≠ some '\n') :
    behindBreak? (utf8 text) (byteLength front) = some (byteLength (front ++ b.text.toList)) := by
  have first := getElem?_utf8 parts 0
  rw [Nat.add_zero] at first
  rw [behindBreak?, getElem?_utf8 parts 1, first, byteLength_append]
  cases b with
  | crlf => rfl
  | lf => rfl
  | cr =>
    have lone : (back.flatMap String.utf8EncodeChar)[0]? ≠ some 10 :=
      fun first => apart rfl (head?_of_getElem?_zero first)
    exact congrArg some (if_neg lone)

/-- No terminator starts within a character that is none. -/
theorem behindBreak?_inside {c : Char} (parts : text.toList = front ++ c :: back)
    (inLine : ¬ (c = '\n' ∨ c = '\r')) {k : Nat} (inside : k < c.utf8Size) :
    behindBreak? (utf8 text) (byteLength front + k) = none := by
  rw [← String.length_utf8EncodeChar] at inside
  rw [behindBreak?, getElem?_utf8 parts, List.flatMap_cons, List.getElem?_append_left inside]
  split
  next feed => exact absurd (.inl (eq_feed_of_mem (List.mem_of_getElem? feed))) inLine
  next ret => exact absurd (.inr (eq_return_of_mem (List.mem_of_getElem? ret))) inLine
  next => rfl

/-- At a terminator the current line is cut out. -/
theorem cutFrom_break {line : List Char} {b : LineBreak}
    (parts : text.toList = front ++ (line ++ (b.text.toList ++ back)))
    (apart : b = .cr → back.head? ≠ some '\n') {lines : List String}
    (later : ∀ front : List Char, text.toList = front ++ back →
      cutFrom text (utf8 text) (byteLength front) (byteLength front) = some lines) :
    cutFrom text (utf8 text) (byteLength front) (byteLength (front ++ line)) =
      some (String.ofList line :: lines) := by
  have ends : behindBreak? (utf8 text) (byteLength (front ++ line)) = _ :=
    behindBreak?_of_break (by simpa using parts) apart
  have inside : byteLength (front ++ line) < (utf8 text).length := by
    refine Nat.lt_of_not_le fun past => ?_
    cases ends.symm.trans (behindBreak?_of_length_le past)
  have cut : slice? text (byteLength front) (byteLength (front ++ line)) =
      some (String.ofList line) :=
    slice?_eq_some_iff.mpr ⟨front, b.text.toList ++ back, by simpa using parts, rfl,
      by simp [byteSize, byteLength_append]⟩
  rw [cutFrom, if_pos inside]
  split
  next next found =>
    obtain rfl := Option.some.inj (ends.symm.trans found)
    rw [cut, later _ (by simpa using parts)]
    rfl
  next none => cases ends.symm.trans none

/-- The bytes of a character that is no break belong to the current line. -/
theorem cutFrom_inside {c : Char} {start : Nat} (parts : text.toList = front ++ c :: back)
    (inLine : ¬ (c = '\n' ∨ c = '\r')) :
    cutFrom text (utf8 text) start (byteLength front) =
      cutFrom text (utf8 text) start (byteLength (front ++ [c])) := by
  have room : byteLength front + c.utf8Size ≤ (utf8 text).length := by
    rw [length_utf8, byteSize, parts]
    simp [byteLength_append]
  have upTo : ∀ n ≤ c.utf8Size, cutFrom text (utf8 text) start (byteLength front) =
      cutFrom text (utf8 text) start (byteLength front + n) := by
    intro n inside
    induction n with
    | zero => rfl
    | succ n ih =>
      rw [ih (by omega)]
      conv => lhs; rw [cutFrom, if_pos (show byteLength front + n < (utf8 text).length by omega)]
      split
      next next found =>
        have none := behindBreak?_inside parts inLine (show n < c.utf8Size by omega)
        cases none.symm.trans found
      next => rfl
  simpa [byteLength_append] using upTo c.utf8Size (Nat.le_refl _)

end Bytes

/-- The loop over the bytes finds the lines that are read character by character. -/
theorem cutFrom_eq {text : String} (front : List Char) {line cs : List Char}
    (parts : text.toList = front ++ (line.reverse ++ cs)) :
    cutFrom text (utf8 text) (byteLength front) (byteLength (front ++ line.reverse)) =
      some ((linesFrom line cs).map String.ofList) := by
  fun_induction linesFrom line cs generalizing front with
  | case1 line =>
    have size : (utf8 text).length = byteLength (front ++ line.reverse) := by
      rw [length_utf8, byteSize, parts, List.append_nil]
    have cut : slice? text (byteLength front) (utf8 text).length =
        some (String.ofList line.reverse) :=
      slice?_eq_some_iff.mpr ⟨front, [], by simpa using parts, rfl,
        by simp [size, byteSize, byteLength_append]⟩
    rw [cutFrom, if_neg (by omega), cut]
    rfl
  | case2 line cs ih => exact cutFrom_break (b := .crlf) parts (by simp) (by simpa using ih)
  | case3 line c cs lone ends ih =>
    rcases ends with rfl | rfl
    · exact cutFrom_break (b := .lf) parts (by simp) (by simpa using ih)
    · refine cutFrom_break (b := .cr) parts (fun _ head => ?_) (by simpa using ih)
      obtain ⟨rest, rfl⟩ := List.head?_eq_some_iff.mp head
      exact lone rest rfl rfl
  | case4 line c cs _ goes ih =>
    have parts : text.toList = front ++ line.reverse ++ c :: cs := by simpa using parts
    rw [cutFrom_inside parts goes]
    simpa using ih front (by simpa using parts)

/-- No line is cut within a character. -/
theorem cutLines_eq (text : String) : cutLines text = some (splitLines text) :=
  cutFrom_eq [] (show text.toList = [] ++ ([].reverse ++ text.toList) from rfl)

/-! ## The one decomposition -/

/-- The lines of a text, with the right terminators between them, are its one decomposition. There
is always a line, and each one is cut out of the text at boundaries, behind the lines and
terminators before it. The loop over the bytes finds them without a cut that goes wrong. -/
theorem splitLines_only_decomposition (text : String) :
    ∃ breaks, FallsInto text (splitLines text) breaks ∧
      (∀ lines' breaks', FallsInto text lines' breaks' →
        lines' = splitLines text ∧ breaks' = breaks) ∧
      splitLines text ≠ [] ∧ cutLines text = some (splitLines text) ∧
      ∀ i line, (splitLines text)[i]? = some line →
        slice? text (lineStart (splitLines text) breaks i)
          (lineStart (splitLines text) breaks i + byteSize line) =
          some line := by
  obtain ⟨breaks, falls⟩ : ∃ breaks, FallsInto text (splitLines text) breaks := by
    simpa [splitLines] using exists_fallsInto_linesFrom [] (by simp [OneLine]) text.toList
  refine ⟨breaks, falls, ?_, ?_, cutLines_eq text, ?_⟩
  · intro lines' breaks' falls'
    exact falls'.unique falls
  · intro none
    have count := falls.count
    rw [none] at count
    cases count
  · intro i line found
    exact falls.slice?_line found

example : cutLines "a\r\r\né\n\rb\n" = some ["a", "", "é", "", "b", ""] := by decide +kernel

end Highlight
