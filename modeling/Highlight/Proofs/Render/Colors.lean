import Highlight.Proofs.Data.Records
import Highlight.Proofs.Text.Slices
import Highlight.Proofs.Theme.Interning
import Highlight.Render.HexColor

/-!
# Which texts are colors, and which colors they are

A text is a color exactly when it is `#` and 3, 4, 6 or 8 hexadecimal digits
(`Rgb.parse?_eq_some_iff`). All four formats come down to six digits, two for each channel
(`Rgb.channelDigits`): a short form has each digit twice, and alpha digits are left out. So letter
case, the alpha channel and the choice between the short and the long form make no difference.

`Rgb.parseBytes` reads a color from the bytes of its text with every step checked: it has no answer
as soon as a slice of the text would be cut within a character, or a channel would not fit a byte.
It answers on every text, with the answer of `Rgb.parse` (`Rgb.parseBytes_eq`): a text that is long
enough in bytes and has a character of several bytes is found out before it is cut.
-/

namespace Highlight

/-! ## Digits -/

namespace Hex

/-- The sixteen digits in the order of their values. -/
def alphabet : List Char :=
  ['0', '1', '2', '3', '4', '5', '6', '7', '8', '9', 'a', 'b', 'c', 'd', 'e', 'f']

/-- The character is a hexadecimal digit, in either case. -/
def IsDigit (c : Char) : Prop := c.toLower ∈ alphabet

instance (c : Char) : Decidable (IsDigit c) := inferInstanceAs (Decidable (c.toLower ∈ alphabet))

/-- The value of a digit. -/
def value (c : Char) : Nat := alphabet.idxOf c.toLower

theorem value_lt {c : Char} (digit : IsDigit c) : value c < 16 := List.idxOf_lt_length_iff.mpr digit

theorem toNat_lt_of_isDigit {c : Char} (digit : IsDigit c) : c.toNat < 128 := by
  have each : ∀ c ∈ alphabet, c.toNat < 128 := by simp [alphabet]
  have low := each _ digit
  rw [toNat_toLower] at low
  split at low <;> omega

/-- A digit takes one byte. -/
theorem utf8Size_of_isDigit {c : Char} (digit : IsDigit c) : c.utf8Size = 1 :=
  Char.utf8Size_eq_one_iff.mpr (Nat.le_of_lt_succ (toNat_lt_of_isDigit digit))

theorem digit?_eq (c : Char) : digit? c = if IsDigit c then some (value c) else none := by
  by_cases ascii : c.toNat < 128
  · have each : ∀ n < 128, digit? (Char.ofNat n) =
        if IsDigit (Char.ofNat n) then some (value (Char.ofNat n)) else none := by decide +kernel
    simpa using each c.toNat ascii
  · have above (bound : Char) (low : bound.toNat < 128) : ¬ c ≤ bound := by
      rw [Char.le_def, UInt32.le_iff_toNat_le]
      show ¬ c.toNat ≤ bound.toNat
      omega
    rw [if_neg fun digit => ascii (toNat_lt_of_isDigit digit), digit?]
    simp [above '9' (by decide), above 'f' (by decide), above 'F' (by decide)]

theorem digit?_of_isDigit {c : Char} (digit : IsDigit c) : digit? c = some (value c) := by
  rw [digit?_eq, if_pos digit]

theorem isSome_digit?_iff {c : Char} : (digit? c).isSome ↔ IsDigit c := by
  rw [digit?_eq]
  split <;> simp [*]

theorem mapM_digit? {digits : List Char} (all : ∀ c ∈ digits, IsDigit c) :
    digits.mapM digit? = some (digits.map value) := by
  rw [mapM_eq_some_iff, List.forall₂_map_right_iff]
  exact List.forall₂_same.mpr fun c mem => digit?_of_isDigit (all c mem)

end Hex

namespace Rgb

open Hex (IsDigit value)

/-! ## The four formats -/

/-- The text of a color with these digits. -/
def written (digits : List Char) : String := String.ofList ('#' :: digits)

/-- The text is `#` and 3, 4, 6 or 8 hexadecimal digits. -/
structure Spells (text : String) (digits : List Char) : Prop where
  marked : text = written digits
  count : digits.length ∈ [3, 4, 6, 8]
  each : ∀ c ∈ digits, IsDigit c

theorem Spells.toList_eq {text : String} {digits : List Char} (spells : Spells text digits) :
    text.toList = '#' :: digits := by
  rw [spells.marked, written, String.toList_ofList]

/-- Each member twice. -/
def doubled {α : Type} (xs : List α) : List α := xs.flatMap fun x => [x, x]

theorem mem_doubled {α : Type} {x : α} {xs : List α} : x ∈ doubled xs ↔ x ∈ xs := by simp [doubled]

/-- The digits that tell the color; those behind them tell alpha. -/
def colorDigits {α : Type} (digits : List α) : List α :=
  digits.take (if digits.length ≤ 4 then 3 else 6)

/-- The digits of the channels, two for each. -/
def channelDigits {α : Type} (digits : List α) : List α :=
  if (colorDigits digits).length = 3 then doubled (colorDigits digits) else colorDigits digits

/-- The color of six values of digits, two for each channel. -/
def ofPairs : List Nat → Rgb
  | [r, r', g, g', b, b'] => ⟨.ofNat (r * 16 + r'), .ofNat (g * 16 + g'), .ofNat (b * 16 + b')⟩
  | _ => ⟨0, 0, 0⟩

/-- The color that digits spell. -/
def ofSpelling (digits : List Char) : Rgb := ofPairs (channelDigits (digits.map value))

theorem formats {α : Type} {xs : List α} (count : xs.length ∈ [3, 4, 6, 8]) :
    (∃ r g b, xs = [r, g, b]) ∨ (∃ r g b a, xs = [r, g, b, a]) ∨
    (∃ r r' g g' b b', xs = [r, r', g, g', b, b']) ∨
      ∃ r r' g g' b b' a a', xs = [r, r', g, g', b, b', a, a'] := by
  rcases xs with _ |
      ⟨x₁, _ | ⟨x₂, _ | ⟨x₃, _ | ⟨x₄, _ | ⟨x₅, _ | ⟨x₆, _ | ⟨x₇, _ | ⟨x₈, _ | ⟨x₉, xs⟩⟩⟩⟩⟩⟩⟩⟩⟩ <;>
    simp at count ⊢

theorem ofDigits?_of_count {ns : List Nat} (count : ns.length ∈ [3, 4, 6, 8]) :
    ofDigits? ns = some (ofPairs (channelDigits ns)) := by
  obtain ⟨r, g, b, rfl⟩ | ⟨r, g, b, a, rfl⟩ | ⟨r, r', g, g', b, b', rfl⟩ |
      ⟨r, r', g, g', b, b', a, a', rfl⟩ :=
    formats count <;> rfl

theorem count_of_ofDigits? {ns : List Nat} {color : Rgb} (read : ofDigits? ns = some color) :
    ns.length ∈ [3, 4, 6, 8] := by
  unfold ofDigits? at read
  split at read <;> simp_all

/-- The texts that are colors, and their colors. -/
theorem parse?_eq_some_iff {text : String} {color : Rgb} :
    parse? text = some color ↔ ∃ digits, Spells text digits ∧ color = ofSpelling digits := by
  constructor
  · intro read
    unfold parse? at read
    split at read
    next digits marked =>
      obtain ⟨ns, values, read⟩ := Option.bind_eq_some_iff.mp read
      have isDigit : ∀ c ∈ digits, IsDigit c := by
        intro c mem
        by_contra other
        have unread : Hex.digit? c = none := by rw [Hex.digit?_eq, if_neg other]
        rw [mapM_eq_none_of_mem mem unread] at values
        cases values
      rw [Hex.mapM_digit? isDigit] at values
      cases values
      have count := count_of_ofDigits? read
      rw [ofDigits?_of_count count, Option.some_inj] at read
      rw [List.length_map] at count
      refine ⟨digits, ⟨?_, count, isDigit⟩, read.symm⟩
      rw [written, ← marked, String.ofList_toList]
    next => cases read
  · rintro ⟨digits, ⟨rfl, count, each⟩, rfl⟩
    have long : (digits.map value).length ∈ [3, 4, 6, 8] := by rwa [List.length_map]
    rw [parse?, written, String.toList_ofList]
    show (digits.mapM Hex.digit?).bind ofDigits? = _
    rw [Hex.mapM_digit? each]
    exact ofDigits?_of_count long

theorem parse_of_spells {text : String} {digits : List Char} (spells : Spells text digits) :
    parse text = .ok (ofSpelling digits) := by
  rw [parse, parse?_eq_some_iff.mpr ⟨digits, spells, rfl⟩]

theorem parse_of_not_spells {text : String} (none : ¬ ∃ digits, Spells text digits) :
    parse text = .error (.invalidColor text) := by
  have unread : parse? text = Option.none := by
    rw [Option.eq_none_iff_forall_ne_some]
    intro color read
    obtain ⟨digits, spells, -⟩ := parse?_eq_some_iff.mp read
    exact none ⟨digits, spells⟩
  rw [parse, unread]

/-! ## What makes no difference -/

theorem map_channelDigits {α β : Type} (f : α → β) (digits : List α) :
    (channelDigits digits).map f = channelDigits (digits.map f) := by
  have color : colorDigits (digits.map f) = (colorDigits digits).map f := by
    rw [colorDigits, colorDigits, List.length_map, List.map_take]
  rw [channelDigits, channelDigits, color, List.length_map]
  split <;> simp [doubled, List.map_flatMap, List.flatMap_map]

/-- Digits that tell the color alike spell the same color, whatever alpha they tell. -/
theorem ofSpelling_of_colorDigits {digits digits' : List Char}
    (same : colorDigits digits' = colorDigits digits) :
    ofSpelling digits' = ofSpelling digits := by
  rw [ofSpelling, ofSpelling, ← map_channelDigits, ← map_channelDigits, channelDigits,
    channelDigits, same]

/-- A short form spells the color of its long form. -/
theorem ofSpelling_doubled {digits : List Char} (count : digits.length ∈ [3, 4]) :
    ofSpelling (doubled digits) = ofSpelling digits := by
  obtain ⟨r, g, b, rfl⟩ | ⟨r, g, b, a, rfl⟩ | ⟨r, r', g, g', b, b', rfl⟩ |
      ⟨r, r', g, g', b, b', a, a', rfl⟩ :=
    formats (List.mem_append_left [6, 8] count)
  · rfl
  · rfl
  · simp at count
  · simp at count

theorem Spells.doubled {text : String} {digits : List Char} (spells : Spells text digits)
    (count : digits.length ∈ [3, 4]) :
    Spells (written (Rgb.doubled digits)) (Rgb.doubled digits) := by
  refine ⟨rfl, ?_, ?_⟩
  · have twice : (Rgb.doubled digits).length = digits.length * 2 := by simp [Rgb.doubled]
    rw [twice]
    simp only [List.mem_cons, List.not_mem_nil, or_false] at count ⊢
    omega
  · exact fun c mem => spells.each c (mem_doubled.mp mem)

/-- A text that differs from a color in the case of letters only is a color, and the same one. -/
theorem Spells.of_sameButCase {text text' : String} {digits : List Char}
    (spells : Spells text digits) (same : SameButCase text text') :
    ∃ digits', Spells text' digits' ∧ ofSpelling digits' = ofSpelling digits := by
  obtain ⟨rfl, count, each⟩ := spells
  rw [SameButCase, written, String.toList_ofList, List.map_cons] at same
  obtain ⟨mark, digits', chars, hash, lower⟩ := List.map_eq_cons_iff.mp same.symm
  have mark : mark = '#' := by
    have code := congrArg Char.toNat hash
    rw [toNat_toLower, show '#'.toLower.toNat = 35 from rfl] at code
    refine Char.toNat_inj.mp (show mark.toNat = 35 from ?_)
    split at code <;> omega
  refine ⟨digits', ⟨?_, ?_, ?_⟩, ?_⟩
  · rw [written, ← mark, ← chars, String.ofList_toList]
  · have long := congrArg List.length lower
    rw [List.length_map, List.length_map] at long
    rwa [long]
  · intro c mem
    have lowered : c.toLower ∈ digits.map Char.toLower := lower ▸ List.mem_map_of_mem mem
    obtain ⟨d, own, equal⟩ := List.mem_map.mp lowered
    have digit := each d own
    rwa [IsDigit, equal] at digit
  · have values (digits : List Char) : digits.map value =
        (digits.map Char.toLower).map Hex.alphabet.idxOf := by
      rw [List.map_map]
      rfl
    rw [ofSpelling, ofSpelling, values, values, lower]

/-! ## Reading bytes -/

/-- The number that digits write, if a byte has room for it. -/
def byte? (digits : List Char) : Option UInt8 :=
  (Hex.number? digits).bind fun n => if n < 256 then some (.ofNat n) else none

/-- The product, if a byte has room for it. -/
def times? (a b : UInt8) : Option UInt8 := if a.toNat * b.toNat < 256 then some (a * b) else none

/-- The channel between two offsets of the digits. -/
def channel (text hex : String) (start stop : Nat) : ExceptT Failure Option UInt8 := do
  let digits ← ExceptT.lift (slice? hex start stop)
  match byte? digits.toList with
  | some b => return b
  | none => throw (.invalidColor text)

/-- The channel of one digit, which stands for itself twice. -/
def shortChannel (text hex : String) (start : Nat) : ExceptT Failure Option UInt8 := do
  let b ← channel text hex start (start + 1)
  ExceptT.lift (times? b 17)

/-- The color of a short form. -/
def shortColor (text hex : String) : ExceptT Failure Option Rgb :=
  return ⟨← shortChannel text hex 0, ← shortChannel text hex 1, ← shortChannel text hex 2⟩

/-- The color of a long form. -/
def longColor (text hex : String) : ExceptT Failure Option Rgb :=
  return ⟨← channel text hex 0 2, ← channel text hex 2 4, ← channel text hex 4 6⟩

/-- Reads a color with every step checked; there is no answer where a step goes wrong. -/
def parseBytes (text : String) : ExceptT Failure Option Rgb :=
  match text.toList with
  | '#' :: digits =>
    let hex := String.ofList digits
    if digits.all fun c => (Hex.digit? c).isSome then
      match byteSize hex with
      | 3 | 4 => shortColor text hex
      | 6 | 8 => longColor text hex
      | _ => throw (.invalidColor text)
    else throw (.invalidColor text)
  | _ => throw (.invalidColor text)

theorem byteLength_of_isDigit {digits : List Char} (each : ∀ c ∈ digits, IsDigit c) :
    byteLength digits = digits.length := by
  induction digits with
  | nil => rfl
  | cons c digits ih =>
    obtain ⟨first, later⟩ := List.forall_mem_cons.mp each
    rw [byteLength_cons, Hex.utf8Size_of_isDigit first, ih later, List.length_cons, Nat.add_comm]

/-- Digits are cut where they are counted. -/
theorem channel_eq (text : String) (front piece back : List Char)
    (each : ∀ c ∈ front ++ piece ++ back, IsDigit c) {b : UInt8} (read : byte? piece = some b) :
    channel text (String.ofList (front ++ piece ++ back)) front.length
      (front.length + piece.length) = pure b := by
  rw [List.forall_mem_append, List.forall_mem_append] at each
  have cut :
      slice? (String.ofList (front ++ piece ++ back)) front.length (front.length + piece.length) =
      some (String.ofList piece) := by
    refine slice?_eq_some_iff.mpr ⟨front, back, by simp, byteLength_of_isDigit each.1.1, ?_⟩
    rw [byteSize, String.toList_ofList, byteLength_of_isDigit each.1.2]
  rw [channel, cut]
  show (match byte? (String.ofList piece).toList with
    | some b => pure b
    | none => throw (.invalidColor text) : ExceptT Failure Option UInt8) = _
  rw [String.toList_ofList, read]

theorem byte?_single {c : Char} (digit : IsDigit c) : byte? [c] = some (.ofNat (value c)) := by
  have low := Hex.value_lt digit
  simp [byte?, Hex.number?, Hex.digit?_of_isDigit digit, show value c < 256 by omega]

theorem byte?_pair {c d : Char} (high : IsDigit c) (low : IsDigit d) :
    byte? [c, d] = some (.ofNat (value c * 16 + value d)) := by
  have room := Hex.value_lt high
  have room' := Hex.value_lt low
  simp [byte?, Hex.number?, Hex.digit?_of_isDigit high, Hex.digit?_of_isDigit low,
    show value c * 16 + value d < 256 by omega]

theorem shortChannel_eq (text : String) (front : List Char) (c : Char) (back : List Char)
    (each : ∀ d ∈ front ++ [c] ++ back, IsDigit d) :
    shortChannel text (String.ofList (front ++ [c] ++ back)) front.length =
      pure (.ofNat (value c * 16 + value c)) := by
  have digit : IsDigit c := each c (by simp)
  have low := Hex.value_lt digit
  have product : times? (.ofNat (value c)) 17 = some (.ofNat (value c * 16 + value c)) := by
    have small : (UInt8.ofNat (value c)).toNat = value c :=
      UInt8.toNat_ofNat_of_lt' (Nat.lt_trans low (by decide))
    have fits : value c * (17 : UInt8).toNat < 256 := by
      show value c * 17 < 256
      omega
    rw [times?, small, if_pos fits, Option.some_inj]
    apply UInt8.toNat_inj.mp
    rw [UInt8.toNat_mul, small, UInt8.toNat_ofNat']
    rfl
  have read := channel_eq text front [c] back each (byte?_single digit)
  rw [List.length_singleton] at read
  rw [shortChannel, read, pure_bind, product]
  rfl

/-- The steps succeed on one digit for each channel, with any digits behind them. -/
theorem shortColor_eq (text : String) {r g b : Char} {alpha : List Char}
    (each : ∀ c ∈ r :: g :: b :: alpha, IsDigit c) :
    shortColor text (String.ofList (r :: g :: b :: alpha)) =
      pure (ofPairs [value r, value r, value g, value g, value b, value b]) := by
  have red : shortChannel text (String.ofList (r :: g :: b :: alpha)) 0 = _ :=
    shortChannel_eq text [] r (g :: b :: alpha) each
  have green : shortChannel text (String.ofList (r :: g :: b :: alpha)) 1 = _ :=
    shortChannel_eq text [r] g (b :: alpha) each
  have blue : shortChannel text (String.ofList (r :: g :: b :: alpha)) 2 = _ :=
    shortChannel_eq text [r, g] b alpha each
  rw [shortColor, red, green, blue, pure_bind, pure_bind, pure_bind]
  rfl

/-- The steps succeed on two digits for each channel, with any digits behind them. -/
theorem longColor_eq (text : String) {r r' g g' b b' : Char} {alpha : List Char}
    (each : ∀ c ∈ r :: r' :: g :: g' :: b :: b' :: alpha, IsDigit c) :
    longColor text (String.ofList (r :: r' :: g :: g' :: b :: b' :: alpha)) =
      pure (ofPairs [value r, value r', value g, value g', value b, value b']) := by
  have digits := each
  simp only [List.forall_mem_cons] at digits
  obtain ⟨hr, hr', hg, hg', hb, hb', -⟩ := digits
  have red : channel text (String.ofList (r :: r' :: g :: g' :: b :: b' :: alpha)) 0 2 = _ :=
    channel_eq text [] [r, r'] (g :: g' :: b :: b' :: alpha) each (byte?_pair hr hr')
  have green : channel text (String.ofList (r :: r' :: g :: g' :: b :: b' :: alpha)) 2 4 = _ :=
    channel_eq text [r, r'] [g, g'] (b :: b' :: alpha) each (byte?_pair hg hg')
  have blue : channel text (String.ofList (r :: r' :: g :: g' :: b :: b' :: alpha)) 4 6 = _ :=
    channel_eq text [r, r', g, g'] [b, b'] alpha each (byte?_pair hb hb')
  rw [longColor, red, green, blue, pure_bind, pure_bind, pure_bind]
  rfl

/-- No step goes wrong on any text, and the answer is that of `parse`. -/
theorem parseBytes_eq (text : String) : (parseBytes text).run = some (parse text) := by
  unfold parseBytes
  split
  next digits marked =>
    have refused (other : ¬ Spells text digits) : parse text = .error (.invalidColor text) := by
      apply parse_of_not_spells
      rintro ⟨digits', spells⟩
      obtain rfl : digits' = digits := (List.cons.inj (spells.toList_eq.symm.trans marked)).2
      exact other spells
    by_cases each : ∀ c ∈ digits, IsDigit c
    · have tested : (digits.all fun c => (Hex.digit? c).isSome) = true :=
        List.all_eq_true.mpr fun c mem => Hex.isSome_digit?_iff.mpr (each c mem)
      have size : byteSize (String.ofList digits) = digits.length := by
        rw [byteSize, String.toList_ofList, byteLength_of_isDigit each]
      dsimp only
      rw [if_pos tested, size]
      by_cases count : digits.length ∈ [3, 4, 6, 8]
      · have spells : Spells text digits :=
          ⟨by rw [written, ← marked, String.ofList_toList], count, each⟩
        rw [parse_of_spells spells]
        obtain ⟨r, g, b, rfl⟩ | ⟨r, g, b, a, rfl⟩ | ⟨r, r', g, g', b, b', rfl⟩ |
            ⟨r, r', g, g', b, b', a, a', rfl⟩ :=
          formats count
        · exact shortColor_eq text each
        · exact shortColor_eq text each
        · exact longColor_eq text each
        · exact longColor_eq text each
      · rw [refused fun spells => count spells.count]
        simp only [List.mem_cons, List.not_mem_nil, or_false, not_or] at count
        split
        next three => exact absurd three count.1
        next four => exact absurd four count.2.1
        next six => exact absurd six count.2.2.1
        next eight => exact absurd eight count.2.2.2
        next => rfl
    · have tested : ¬ (digits.all fun c => (Hex.digit? c).isSome) = true := fun all =>
        each fun c mem => Hex.isSome_digit?_iff.mp (List.all_eq_true.mp all c mem)
      dsimp only
      rw [if_neg tested, refused fun spells => each spells.each]
      rfl
  next unmarked =>
    have none : ¬ ∃ digits, Spells text digits := by
      rintro ⟨digits, spells⟩
      exact unmarked digits spells.toList_eq
    rw [parse_of_not_spells none]
    rfl

/-! ## The statement -/

/-- The color that a text with these digits is read as. -/
structure Reads (digits : List Char) (color : Rgb) : Prop where
  /-- Each channel is the number that its two digits write. -/
  channels : ∃ r r' g g' b b',
    channelDigits digits = [r, r', g, g', b, b'] ∧ color.red.toNat = value r * 16 + value r' ∧
    color.green.toNat = value g * 16 + value g' ∧ color.blue.toNat = value b * 16 + value b'
  /-- Letter case makes no difference. -/
  anyCase : ∀ text, SameButCase (written digits) text → parse text = .ok color
  /-- Alpha digits make no difference, nor whether there are any. -/
  anyAlpha : ∀ text digits', Spells text digits' → colorDigits digits' = colorDigits digits →
    parse text = .ok color
  /-- A short form is the same color as its long form. -/
  doubled : digits.length ∈ [3, 4] → parse (written (Rgb.doubled digits)) = .ok color

theorem exists_channelDigits {digits : List Char} (count : digits.length ∈ [3, 4, 6, 8]) :
    ∃ r r' g g' b b', channelDigits digits = [r, r', g, g', b, b'] := by
  obtain ⟨r, g, b, rfl⟩ | ⟨r, g, b, a, rfl⟩ | ⟨r, r', g, g', b, b', rfl⟩ |
      ⟨r, r', g, g', b, b', a, a', rfl⟩ :=
    formats count <;> exact ⟨_, _, _, _, _, _, rfl⟩

theorem mem_of_mem_channelDigits {digits : List Char} {c : Char} (mem : c ∈ channelDigits digits) :
    c ∈ digits := by
  rw [channelDigits] at mem
  split at mem
  next => exact List.mem_of_mem_take (mem_doubled.mp mem)
  next => exact List.mem_of_mem_take mem

/-- A byte has room for two digits. -/
theorem toNat_pair {c d : Char} (high : IsDigit c) (low : IsDigit d) :
    (UInt8.ofNat (value c * 16 + value d)).toNat = value c * 16 + value d := by
  have room := Hex.value_lt high
  have room' := Hex.value_lt low
  exact UInt8.toNat_ofNat_of_lt' (show value c * 16 + value d < 256 by omega)

theorem reads_ofSpelling {text : String} {digits : List Char} (spells : Spells text digits) :
    Reads digits (ofSpelling digits) where
  channels := by
    obtain ⟨r, r', g, g', b, b', six⟩ := exists_channelDigits spells.count
    have each : ∀ c ∈ [r, r', g, g', b, b'], IsDigit c := fun c mem =>
      spells.each c (mem_of_mem_channelDigits (six ▸ mem))
    simp only [List.forall_mem_cons] at each
    obtain ⟨hr, hr', hg, hg', hb, hb', -⟩ := each
    rw [ofSpelling, ← map_channelDigits, six]
    exact ⟨r, r', g, g', b, b', rfl, toNat_pair hr hr', toNat_pair hg hg', toNat_pair hb hb'⟩
  anyCase text' same := by
    obtain ⟨digits', spells', equal⟩ := spells.of_sameButCase (spells.marked ▸ same)
    rw [parse_of_spells spells', equal]
  anyAlpha text' digits' spells' same := by
    rw [parse_of_spells spells', ofSpelling_of_colorDigits same]
  doubled count := by
    rw [parse_of_spells (spells.doubled count), ofSpelling_doubled count]

/-- Whatever the text is: reading it as a color goes through without a wrong step. It is a color
exactly if it is `#` and 3, 4, 6 or 8 hexadecimal digits, and otherwise it is refused by name; and
its color is the one that its digits tell. -/
theorem parse_reads_digits (text : String) :
    (parseBytes text).run = some (parse text) ∧
    ((∃ color, parse text = .ok color) ↔ ∃ digits, Spells text digits) ∧
    (parse text = .error (.invalidColor text) ↔ ¬ ∃ digits, Spells text digits) ∧
    ∀ digits color, Spells text digits → parse text = .ok color → Reads digits color := by
  refine ⟨parseBytes_eq text, ?_⟩
  by_cases spelled : ∃ digits, Spells text digits
  · obtain ⟨digits, spells⟩ := spelled
    have read := parse_of_spells spells
    refine ⟨iff_of_true ⟨_, read⟩ ⟨digits, spells⟩,
      iff_of_false (by rw [read]; simp) (not_not_intro ⟨digits, spells⟩), ?_⟩
    intro digits' color spells' ok
    rw [parse_of_spells spells'] at ok
    cases ok
    exact reads_ofSpelling spells'
  · have refused := parse_of_not_spells spelled
    refine ⟨iff_of_false ?_ spelled, iff_of_true refused spelled,
      fun digits _ spells => absurd ⟨digits, spells⟩ spelled⟩
    rintro ⟨color, ok⟩
    rw [refused] at ok
    cases ok

/-- A short form with letters in both cases and an alpha digit. -/
theorem parse_reads_digits_mixed :
    Spells "#F0a8" ['F', '0', 'a', '8'] ∧ parse "#F0a8" = .ok ⟨0xFF, 0x00, 0xAA⟩ ∧
      Reads ['F', '0', 'a', '8'] ⟨0xFF, 0x00, 0xAA⟩ := by
  have spells : Spells "#F0a8" ['F', '0', 'a', '8'] :=
    ⟨by decide, by decide, by simp [IsDigit, Hex.alphabet]⟩
  have read : parse "#F0a8" = .ok ⟨0xFF, 0x00, 0xAA⟩ := by rfl
  exact ⟨spells, read, (parse_reads_digits "#F0a8").2.2.2 _ _ spells read⟩

/-- Three bytes behind the mark, but two characters. -/
example : byteSize "é1" = 3 ∧ parse "#é1" = .error (.invalidColor "#é1") := ⟨by decide, by rfl⟩

end Rgb

end Highlight
