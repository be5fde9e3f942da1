import Highlight.Json.Printer
import Highlight.Json.Reader

/-!
# What is written is what is read

`Writes` is the grammar of JSON texts with the values that they stand for: which characters write a
value, the items of an array or the members of an object, with blanks wherever the grammar allows
them. Numbers are left out, and so are pairs of escapes for one character.

The reader reads every text of this grammar as the value that it writes (`Writes.isRead`), and the
printer writes in it every value without numbers and broken texts (`Writable.writes`). So such a
value comes back from its print (`Writes.parse?`).
-/

namespace Highlight.Json

/-! ## Texts -/

/-- The letters of the short escapes, with the characters that they stand for. -/
def shortEscapes : List (Char × Char) :=
  [('\x22', '\x22'), ('\\', '\\'), ('/', '/'), ('b', '\x08'), ('f', '\x0c'), ('n', '\n'),
    ('r', '\r'), ('t', '\t')]

/-- How a character may stand in a string: as it is, if it is no control character, quote or
backslash, or as an escape by a letter or by four hexadecimal digits. -/
inductive WritesChar (c : Char) : List Char → Prop
  | plain (high : 0x20 ≤ c.toNat) (noQuote : c ≠ '\x22') (noBackslash : c ≠ '\\') : WritesChar c [c]
  | letter {e : Char} (known : (e, c) ∈ shortEscapes) : WritesChar c ['\\', e]
  | code {a b x y : Char} (value : Hex.number? [a, b, x, y] = some c.toNat) :
      WritesChar c ['\\', 'u', a, b, x, y]

/-- How characters may stand in a string, one after the other. -/
inductive WritesChars : List Char → List Char → Prop
  | nil : WritesChars [] []
  | cons {c : Char} {text piece cs : List Char} (first : WritesChar c piece)
      (others : WritesChars text cs) : WritesChars (c :: text) (piece ++ cs)

theorem readUnits_of_writesChar {c : Char} {piece : List Char} (written : WritesChar c piece)
    (rest : List Char) :
    readUnits (piece ++ rest) =
      (readUnits rest).map fun (units, rest) => (c.toNat :: units, rest) := by
  cases written with
  | plain high noQuote noBackslash =>
    rw [List.singleton_append, readUnits]
    · have allowed : ¬ (decide (c.toNat < 0x20) || c == '\\') = true := by
        simp only [Bool.or_eq_true, decide_eq_true_eq, beq_iff_eq, noBackslash, or_false]
        omega
      rw [if_neg allowed]
      cases readUnits rest <;> rfl
    · exact fun quote => noQuote quote
    · exact fun _ _ _ _ _ backslash _ => noBackslash backslash
    · exact fun _ _ backslash _ => noBackslash backslash
  | letter known =>
    simp only [shortEscapes, List.mem_cons, Prod.mk.injEq, List.not_mem_nil, or_false] at known
    rcases known with ⟨rfl, rfl⟩ | ⟨rfl, rfl⟩ | ⟨rfl, rfl⟩ | ⟨rfl, rfl⟩ | ⟨rfl, rfl⟩ | ⟨rfl, rfl⟩ |
        ⟨rfl, rfl⟩ | ⟨rfl, rfl⟩ <;>
      cases read : readUnits rest <;> simp [readUnits, shortEscape?, read]
  | code value =>
    cases read : readUnits rest <;> simp [readUnits, value, read]

theorem readUnits_of_writesChars {text cs : List Char} (written : WritesChars text cs)
    (rest : List Char) :
    readUnits (cs ++ '\x22' :: rest) = some (text.map Char.toNat, rest) := by
  induction written with
  | nil => rfl
  | cons first others ih =>
    rw [List.append_assoc, readUnits_of_writesChar first, ih, Option.map_some, List.map_cons]

/-- No character is half of a surrogate pair. -/
theorem isLead_or_isTrail_toNat (c : Char) : isLead c.toNat = false ∧ isTrail c.toNat = false := by
  have valid : c.toNat < 0xD800 ∨ 0xDFFF < c.toNat ∧ c.toNat < 0x110000 := c.valid
  simp only [isLead, isTrail, Bool.and_eq_false_iff, decide_eq_false_iff_not]
  omega

theorem joinUnits_toNat (cs : List Char) : joinUnits (cs.map Char.toNat) = some cs := by
  induction cs with
  | nil => rfl
  | cons c cs ih =>
    obtain ⟨noLead, noTrail⟩ := isLead_or_isTrail_toNat c
    cases cs with
    | nil => simp [joinUnits, noLead, noTrail]
    | cons d cs =>
      rw [List.map_cons] at ih
      simp [joinUnits, noLead, noTrail, ih]

theorem readText_of_writesChars {s : String} {cs : List Char} (written : WritesChars s.toList cs)
    (rest : List Char) :
    readText (cs ++ '\x22' :: rest) = some (some s, rest) := by
  simp [readText, readUnits_of_writesChars written, joinUnits_toNat]

/-! ## Blanks -/

/-- The characters may stand between the parts of a text. -/
def Blanks (cs : List Char) : Prop := ∀ c ∈ cs, c ∈ [' ', '\t', '\n', '\r']

theorem blanks_nil : Blanks [] := fun _ mem => nomatch mem

theorem Blanks.append {gap gap' : List Char} (blank : Blanks gap) (blank' : Blanks gap') :
    Blanks (gap ++ gap') :=
  fun c mem => (List.mem_append.1 mem).elim (blank c) (blank' c)

theorem skipBlanks_append {gap : List Char} (blank : Blanks gap) (cs : List Char) :
    skipBlanks (gap ++ cs) = skipBlanks cs := by
  refine List.dropWhile_append_of_pos fun c mem => ?_
  simpa [isBlank, or_assoc] using blank c mem

theorem skipBlanks_cons {c : Char} (text : isBlank c = false) (cs : List Char) :
    skipBlanks (c :: cs) = c :: cs := by
  simp [skipBlanks, text]

theorem readValue_append {gap : List Char} (blank : Blanks gap) (fuel : Nat) (cs : List Char) :
    readValue fuel (gap ++ cs) = readValue fuel cs := by
  cases fuel with
  | zero => rw [readValue, readValue]
  | succ fuel => rw [readValue, readValue, skipBlanks_append blank]

/-! ## The grammar -/

/-- A part of a text: a value, an item of an array with the blanks around it, all items, a member of
an object, all members. -/
inductive Part where
  | value (v : Json)
  | item (v : Json)
  | items (vs : List Json)
  | member (key : String) (v : Json)
  | members (ms : List (Option String × Json))

/-- The characters write the part of a text. -/
inductive Writes : Part → List Char → Prop
  | null : Writes (.value .null) ['n', 'u', 'l', 'l']
  | trueValue : Writes (.value (.bool true)) ['t', 'r', 'u', 'e']
  | falseValue : Writes (.value (.bool false)) ['f', 'a', 'l', 's', 'e']
  | string {s : String} {cs : List Char} (text : WritesChars s.toList cs) :
      Writes (.value (.string (some s))) ('\x22' :: cs ++ ['\x22'])
  | emptyArray {gap : List Char} (blank : Blanks gap) :
      Writes (.value (.array [])) ('[' :: gap ++ [']'])
  | array {vs : List Json} {cs : List Char} (items : Writes (.items vs) cs) :
      Writes (.value (.array vs)) ('[' :: cs ++ [']'])
  | emptyObject {gap : List Char} (blank : Blanks gap) :
      Writes (.value (.object [])) ('\x7b' :: gap ++ ['\x7d'])
  | object {ms : List (Option String × Json)} {cs : List Char} (members : Writes (.members ms) cs) :
      Writes (.value (.object ms)) ('\x7b' :: cs ++ ['\x7d'])
  | item {v : Json} {before cs after : List Char} (blank : Blanks before)
      (value : Writes (.value v) cs) (blank' : Blanks after) :
      Writes (.item v) (before ++ cs ++ after)
  | lastItem {v : Json} {cs : List Char} (item : Writes (.item v) cs) : Writes (.items [v]) cs
  | moreItems {v : Json} {vs : List Json} {cs others : List Char} (item : Writes (.item v) cs)
      (later : Writes (.items vs) others) : Writes (.items (v :: vs)) (cs ++ ',' :: others)
  | member {key : String} {v : Json} {before name gap cs : List Char} (blank : Blanks before)
      (text : WritesChars key.toList name) (blank' : Blanks gap) (item : Writes (.item v) cs) :
      Writes (.member key v) (before ++ '\x22' :: name ++ '\x22' :: gap ++ ':' :: cs)
  | lastMember {key : String} {v : Json} {cs : List Char} (member : Writes (.member key v) cs) :
      Writes (.members [(some key, v)]) cs
  | moreMembers {key : String} {v : Json} {ms : List (Option String × Json)} {cs others : List Char}
      (member : Writes (.member key v) cs) (later : Writes (.members ms) others) :
      Writes (.members ((some key, v) :: ms)) (cs ++ ',' :: others)

/-- After blanks, the characters go on with one that closes nothing. -/
inductive Begins : List Char → Prop
  | intro {gap rest : List Char} {c : Char} (blank : Blanks gap) (text : isBlank c = false)
      (noBracket : c ≠ ']') (noBrace : c ≠ '\x7d') : Begins (gap ++ c :: rest)

theorem Begins.cons {c : Char} (rest : List Char) (text : isBlank c = false) (noBracket : c ≠ ']')
    (noBrace : c ≠ '\x7d') :
    Begins (c :: rest) :=
  .intro blanks_nil text noBracket noBrace

theorem Begins.prepend {gap cs : List Char} (blank : Blanks gap) : Begins cs → Begins (gap ++ cs)
  | .intro blank' text noBracket noBrace => by
    rw [← List.append_assoc]
    exact .intro (blank.append blank') text noBracket noBrace

theorem Begins.append {cs : List Char} (rest : List Char) : Begins cs → Begins (cs ++ rest)
  | .intro blank text noBracket noBrace => by
    rw [List.append_assoc]
    exact .intro blank text noBracket noBrace

theorem Writes.begins {part : Part} {cs : List Char} (written : Writes part cs) : Begins cs := by
  induction written with
  | null | trueValue | falseValue | string | emptyArray | array | emptyObject | object =>
    exact .cons _ (by decide) (by decide) (by decide)
  | item blank _ _ ih => exact (ih.prepend blank).append _
  | lastItem _ ih | lastMember _ ih => exact ih
  | moreItems _ _ ih _ | moreMembers _ _ ih _ => exact ih.append _
  | member blank _ _ _ _ =>
    exact (((Begins.cons _ (by decide) (by decide) (by decide)).prepend blank).append _).append _

/-! ## Reading -/

theorem readItems_append {gap : List Char} (blank : Blanks gap) (fuel : Nat) (earlier : List Json)
    (cs : List Char) :
    readItems fuel earlier (gap ++ cs) = readItems fuel earlier cs := by
  cases fuel with
  | zero => rw [readItems, readItems]
  | succ fuel => rw [readItems, readItems, readValue_append blank]

theorem readMembers_append {gap : List Char} (blank : Blanks gap) (fuel : Nat)
    (earlier : List (Option String × Json)) (cs : List Char) :
    readMembers fuel earlier (gap ++ cs) = readMembers fuel earlier cs := by
  cases fuel with
  | zero => rw [readMembers, readMembers]
  | succ fuel => rw [readMembers, readMembers, skipBlanks_append blank]

/-- An array that does not close at once has items. -/
theorem readValue_array {cs : List Char} (begins : Begins cs) (fuel : Nat) :
    readValue (fuel + 1) ('[' :: cs) = readItems fuel [] cs := by
  obtain ⟨blank, text, noBracket, -⟩ := begins
  rw [readItems_append blank, readValue, skipBlanks_cons (by decide)]
  simp [skipBlanks_append blank, skipBlanks_cons text, noBracket]

/-- An object that does not close at once has members. -/
theorem readValue_object {cs : List Char} (begins : Begins cs) (fuel : Nat) :
    readValue (fuel + 1) ('\x7b' :: cs) = readMembers fuel [] cs := by
  obtain ⟨blank, text, -, noBrace⟩ := begins
  rw [readMembers_append blank, readValue, skipBlanks_cons (by decide)]
  simp [skipBlanks_append blank, skipBlanks_cons text, noBrace]

/-- The reader takes in the characters of a part, given fuel for all of them. -/
def Part.IsRead : Part → List Char → Prop
  | .value v, cs =>
    ∀ fuel rest, cs.length ≤ fuel → readValue (fuel + 1) (cs ++ rest) = some (v, rest)
  | .item v, cs => ∀ fuel rest, cs.length ≤ fuel →
      ∃ after, Blanks after ∧ readValue (fuel + 1) (cs ++ rest) = some (v, after ++ rest)
  | .items vs, cs => ∀ fuel earlier rest, cs.length ≤ fuel →
      readItems (fuel + 2) earlier (cs ++ ']' :: rest) = some (.array (earlier.reverse ++ vs), rest)
  | .member key v, cs => ∀ fuel earlier rest, cs.length ≤ fuel →
      readMembers (fuel + 2) earlier (cs ++ ',' :: rest) =
        readMembers (fuel + 1) ((some key, v) :: earlier) rest ∧
      readMembers (fuel + 2) earlier (cs ++ '\x7d' :: rest) =
        some (.object (earlier.reverse ++ [(some key, v)]), rest)
  | .members ms, cs => ∀ fuel earlier rest, cs.length ≤ fuel →
      readMembers (fuel + 2) earlier (cs ++ '\x7d' :: rest) =
        some (.object (earlier.reverse ++ ms), rest)

/-- By induction on how the part is written; each part leaves enough fuel for the parts inside
it. -/
theorem Writes.isRead {part : Part} {cs : List Char} (written : Writes part cs) :
    part.IsRead cs := by
  induction written with
  | null | trueValue | falseValue =>
    intro fuel rest _
    simp [readValue, skipBlanks, isBlank]
  | string text =>
    intro fuel rest _
    simp [readValue, skipBlanks_cons, isBlank, readText_of_writesChars text]
  | emptyArray blank | emptyObject blank =>
    intro fuel rest _
    simp [readValue, skipBlanks_cons, isBlank, skipBlanks_append blank]
  | array items ih =>
    -- the two brackets pay for the two steps down to the first item
    intro fuel rest enough
    simp only [List.length_append, List.length_cons, List.length_nil] at enough
    obtain ⟨fuel, rfl⟩ := Nat.exists_eq_add_of_le' (show 2 ≤ fuel by omega)
    have read := ih fuel [] rest (by omega)
    simpa using (readValue_array (items.begins.append _) _).trans read
  | object members ih =>
    intro fuel rest enough
    simp only [List.length_append, List.length_cons, List.length_nil] at enough
    obtain ⟨fuel, rfl⟩ := Nat.exists_eq_add_of_le' (show 2 ≤ fuel by omega)
    have read := ih fuel [] rest (by omega)
    simpa using (readValue_object (members.begins.append _) _).trans read
  | item blank value blank' ih =>
    intro fuel rest enough
    simp only [List.length_append] at enough
    refine ⟨_, blank', ?_⟩
    rw [List.append_assoc, List.append_assoc, readValue_append blank]
    exact ih fuel _ (by omega)
  | lastItem item ih =>
    intro fuel earlier rest enough
    obtain ⟨after, blank, read⟩ := ih fuel (']' :: rest) enough
    simp [readItems, read, skipBlanks_append blank, skipBlanks_cons, isBlank]
  | @moreItems v vs cs others item later ih ih' =>
    intro fuel earlier rest enough
    simp only [List.length_append, List.length_cons] at enough
    obtain ⟨fuel, rfl⟩ := Nat.exists_eq_add_of_le' (show 1 ≤ fuel by omega)
    obtain ⟨after, blank, read⟩ := ih (fuel + 1) (',' :: (others ++ ']' :: rest)) (by omega)
    have read' := ih' fuel (v :: earlier) rest (by omega)
    rw [readItems]
    simp [read, read', skipBlanks_append blank, skipBlanks_cons, isBlank]
  | member blank text blank' item ih =>
    intro fuel earlier rest enough
    simp only [List.length_append, List.length_cons] at enough
    obtain ⟨_, blanks, read⟩ := ih fuel (',' :: rest) (by omega)
    obtain ⟨_, blanks', read'⟩ := ih fuel ('\x7d' :: rest) (by omega)
    constructor <;> rw [readMembers] <;>
      simp [skipBlanks_append blank, skipBlanks_cons, isBlank, readText_of_writesChars text,
        skipBlanks_append blank', read, read', skipBlanks_append blanks, skipBlanks_append blanks']
  | lastMember member ih =>
    intro fuel earlier rest enough
    exact (ih fuel earlier rest enough).2
  | @moreMembers key v ms cs others member later ih ih' =>
    intro fuel earlier rest enough
    simp only [List.length_append, List.length_cons] at enough
    obtain ⟨fuel, rfl⟩ := Nat.exists_eq_add_of_le' (show 1 ≤ fuel by omega)
    have read := ih' fuel ((some key, v) :: earlier) rest (by omega)
    rw [List.append_assoc, List.cons_append, (ih (fuel + 1) earlier _ (by omega)).1, read]
    simp

/-- A text of the grammar reads as the value that it writes. -/
theorem Writes.parse? {v : Json} {text : String} (written : Writes (.item v) text.toList) :
    Json.parse? text = some v := by
  obtain ⟨after, blank, read⟩ := written.isRead text.toList.length [] (Nat.le_refl _)
  have ended : skipBlanks after = [] := by simpa [skipBlanks] using skipBlanks_append blank []
  rw [List.append_nil, List.append_nil] at read
  simp [Json.parse?, read, ended]

/-! ## Printing -/

/-- The value is one that the grammar speaks of: nowhere in it is there a number or a broken
text. -/
inductive Writable : Json → Prop
  | null : Writable .null
  | bool (b : Bool) : Writable (.bool b)
  | string (s : String) : Writable (.string (some s))
  | array {vs : List Json} (items : ∀ v ∈ vs, Writable v) : Writable (.array vs)
  | object {ms : List (Option String × Json)} (named : ∀ m ∈ ms, m.1.isSome)
      (values : ∀ m ∈ ms, Writable m.2) : Writable (.object ms)

theorem number?_code :
    ∀ n < 0x20, Hex.number? ['0', '0', Hex.char (n / 16), Hex.char (n % 16)] = some n := by
  decide

theorem writesChar_escapeChar (c : Char) : WritesChar c (escapeChar c) := by
  unfold escapeChar
  split
  case h_8 noQuote noBackslash _ _ _ _ _ =>
    split
    case isTrue low => exact .code (number?_code _ low)
    case isFalse high => exact .plain (Nat.le_of_not_lt high) noQuote noBackslash
  all_goals exact .letter (by decide)

theorem writesChars_flatMap (cs : List Char) : WritesChars cs (cs.flatMap escapeChar) := by
  induction cs with
  | nil => exact .nil
  | cons c cs ih => exact .cons (writesChar_escapeChar c) ih

theorem blanks_lineBreak (depth : Nat) : Blanks (lineBreak depth) := by
  simp only [Blanks, lineBreak, List.mem_cons, List.mem_replicate]
  grind

theorem writes_printItems {depth : Nat} {v : Json} {vs : List Json} {cs after : List Char}
    (first : Writes (.value v) cs) (others : ∀ w ∈ vs, Writes (.value w) (print depth w))
    (blank : Blanks after) :
    Writes (.items (v :: vs)) (lineBreak depth ++ cs ++ printItems depth vs ++ after) := by
  induction vs generalizing v cs with
  | nil => simpa [printItems] using Writes.lastItem (.item (blanks_lineBreak depth) first blank)
  | cons w ws ih =>
    have later :=
      ih (others w List.mem_cons_self) fun w mem => others w (List.mem_cons_of_mem _ mem)
    simpa [printItems] using
      Writes.moreItems (.item (blanks_lineBreak depth) first blanks_nil) later

theorem writes_printMember {depth : Nat} {key : String} {v : Json} {cs after : List Char}
    (value : Writes (.value v) cs) (blank : Blanks after) :
    Writes (.member key v)
      (lineBreak depth ++ printText (some key) ++ [':', ' '] ++ cs ++ after) := by
  have space : Blanks [' '] := by simp [Blanks]
  simpa [printText] using
    Writes.member (blanks_lineBreak depth) (writesChars_flatMap key.toList) blanks_nil
      (.item space value blank)

theorem writes_printMembers {depth : Nat} (key : String) {v : Json}
    {ms : List (Option String × Json)} {cs after : List Char} (first : Writes (.value v) cs)
    (named : ∀ m ∈ ms, m.1.isSome) (others : ∀ m ∈ ms, Writes (.value m.2) (print depth m.2))
    (blank : Blanks after) :
    Writes (.members ((some key, v) :: ms))
      (lineBreak depth ++ printText (some key) ++ [':', ' '] ++ cs ++ printMembers depth ms ++
        after) := by
  induction ms generalizing key v cs with
  | nil => simpa [printMembers] using Writes.lastMember (writes_printMember first blank)
  | cons m ms ih =>
    obtain ⟨name, w⟩ := m
    obtain ⟨key', rfl⟩ := Option.isSome_iff_exists.1 (named (name, w) List.mem_cons_self)
    have later :=
      ih key' (others _ List.mem_cons_self) (fun m mem => named m (List.mem_cons_of_mem _ mem))
      fun m mem => others m (List.mem_cons_of_mem _ mem)
    simpa [printMembers] using Writes.moreMembers (writes_printMember first blanks_nil) later

/-- At every depth, the printer writes in the grammar. -/
theorem Writable.writes {v : Json} (writable : Writable v) (depth : Nat) :
    Writes (.value v) (print depth v) := by
  induction writable generalizing depth with
  | null => simpa [print] using Writes.null
  | bool b =>
    cases b with
    | false => simpa [print] using Writes.falseValue
    | true => simpa [print] using Writes.trueValue
  | string s => simpa [print, printText] using Writes.string (writesChars_flatMap s.toList)
  | @array vs items ih =>
    cases vs with
    | nil => simpa [print] using Writes.emptyArray blanks_nil
    | cons v vs =>
      have written := writes_printItems (ih v List.mem_cons_self (depth + 1))
        (fun w mem => ih w (List.mem_cons_of_mem _ mem) (depth + 1)) (blanks_lineBreak depth)
      simpa [print] using Writes.array written
  | @object ms named values ih =>
    cases ms with
    | nil => simpa [print] using Writes.emptyObject blanks_nil
    | cons m ms =>
      obtain ⟨name, v⟩ := m
      obtain ⟨key, rfl⟩ := Option.isSome_iff_exists.1 (named (name, v) List.mem_cons_self)
      have written := writes_printMembers key (ih _ List.mem_cons_self (depth + 1))
        (fun m mem => named m (List.mem_cons_of_mem _ mem))
        (fun m mem => ih m (List.mem_cons_of_mem _ mem) (depth + 1))
        (blanks_lineBreak depth)
      simpa [print] using Writes.object written

/-- So do a value's layout and the end of its line. -/
theorem Writable.writes_line {v : Json} (writable : Writable v) :
    Writes (.item v) (v.pretty ++ "\n").toList := by
  have line : Blanks ['\n'] := by simp [Blanks]
  simpa [pretty] using Writes.item blanks_nil (writable.writes 0) line

end Highlight.Json
