import Highlight.Style.Attributes
import Mathlib.Algebra.Ring.Nat

/-!
# Packed words keep their fields apart

A field of `k` bits at place `n` takes the low `k` bits of a value and adds them to a word at the
`n`-th power of two, and reading it is a division and a remainder (`Field.Spans.toNat_put`,
`Field.Spans.toNat_get`). A word is the sum of its fields (`Attributes.toNat_pack`): every field is
below the place of the next, so joining them bit by bit is adding them. What is read from a packed
word is therefore what was packed, cut to the room of its field (`Attributes.unpack_pack`).

In the other direction four of the five fields take whatever is in the word. Of the eight values of
the type field only four are codes, and the others read as the class `other`, whose code is zero. So
a word whose type field holds no code is packed again without it, and every other word comes back as
it was (`Attributes.words_round_trip`).
-/

namespace Highlight

namespace Field

/-- The field has `k` bits, from bit `n` on. -/
structure Spans (f : Field) (n k : Nat) : Prop where
  place : f.place.toNat = n
  mask : f.mask.toNat = (2 ^ k - 1) <<< n
  inside : n < 32

namespace Spans

variable {f : Field} {n k : Nat} (spans : f.Spans n k)
include spans

/-- The mask has room in a word, so the bits that a shift loses would not have been kept. -/
theorem toNat_put (value : UInt32) : (f.put value).toNat = value.toNat % 2 ^ k * 2 ^ n := by
  have room : f.mask.toNat < 2 ^ 32 := f.mask.toNat_lt
  rw [spans.mask] at room
  rw [put, UInt32.toNat_and, UInt32.toNat_shiftLeft, spans.place, Nat.mod_eq_of_lt spans.inside,
    spans.mask]
  calc value.toNat <<< n % 2 ^ 32 &&& (2 ^ k - 1) <<< n
      = value.toNat <<< n % 2 ^ 32 &&& (2 ^ k - 1) <<< n % 2 ^ 32 := by rw [Nat.mod_eq_of_lt room]
    _ = (value.toNat <<< n &&& (2 ^ k - 1) <<< n) % 2 ^ 32 := Nat.and_mod_two_pow.symm
    _ = (value.toNat &&& (2 ^ k - 1)) <<< n % 2 ^ 32 := by rw [Nat.shiftLeft_and_distrib]
    _ = value.toNat % 2 ^ k * 2 ^ n := by
      rw [Nat.shiftLeft_eq] at room
      have bits : value.toNat % 2 ^ k ≤ 2 ^ k - 1 :=
        Nat.le_sub_one_of_lt (Nat.mod_lt _ (Nat.two_pow_pos k))
      have less := Nat.lt_of_le_of_lt (Nat.mul_le_mul_right (2 ^ n) bits) room
      rw [Nat.and_two_pow_sub_one_eq_mod, Nat.shiftLeft_eq, Nat.mod_eq_of_lt less]

theorem toNat_get (word : UInt32) : (f.get word).toNat = word.toNat / 2 ^ n % 2 ^ k := by
  rw [get, UInt32.toNat_shiftRight, UInt32.toNat_and, spans.place, Nat.mod_eq_of_lt spans.inside,
    spans.mask, Nat.shiftRight_and_distrib, Nat.shiftLeft_shiftRight,
    Nat.and_two_pow_sub_one_eq_mod, Nat.shiftRight_eq_div_pow]

/-- A field is joined to all that lies below its place by adding it there. -/
theorem toNat_or_put (low : UInt32) (below : low.toNat < 2 ^ n) (value : UInt32) :
    (low ||| f.put value).toNat = low.toNat + value.toNat % 2 ^ k * 2 ^ n := by
  rw [UInt32.toNat_or, spans.toNat_put, Nat.or_comm, Nat.mul_comm,
    ← Nat.two_pow_add_eq_or_of_lt below, Nat.add_comm]

end Spans

theorem spans_language : language.Spans 0 8 := ⟨rfl, rfl, by decide⟩

theorem spans_tokenType : tokenType.Spans 8 3 := ⟨rfl, rfl, by decide⟩

theorem spans_fontStyle : fontStyle.Spans 11 3 := ⟨rfl, rfl, by decide⟩

theorem spans_foreground : foreground.Spans 14 9 := ⟨rfl, rfl, by decide⟩

theorem spans_background : background.Spans 23 9 := ⟨rfl, rfl, by decide⟩

/-- What the field keeps of a value. -/
def kept (f : Field) (value : UInt32) : UInt32 := f.get (f.put value)

theorem Spans.toNat_kept {f : Field} {n k : Nat} (spans : f.Spans n k) (value : UInt32) :
    (f.kept value).toNat = value.toNat % 2 ^ k := by
  rw [kept, spans.toNat_get, spans.toNat_put, Nat.mul_div_cancel _ (Nat.two_pow_pos n), Nat.mod_mod]

end Field

namespace TokenType

theorem toNat_code_lt (t : TokenType) : t.code.toNat < 2 ^ 3 := by cases t <;> decide

theorem ofCode_code (t : TokenType) : ofCode t.code = t := by cases t <;> decide

/-- The codes of the classes. -/
def codes : List UInt32 := [0, 1, 2, 4]

/-- A code without a class is read as that of `other`. -/
theorem code_ofCode (c : UInt32) : (ofCode c).code = if c ∈ codes then c else 0 := by
  by_cases known : c ∈ codes
  · rw [if_pos known]
    simp only [codes, List.mem_cons, List.not_mem_nil, or_false] at known
    obtain rfl | rfl | rfl | rfl := known <;> rfl
  · simp only [codes, List.mem_cons, List.not_mem_nil, or_false, not_or] at known
    obtain ⟨other, comment, string, regex⟩ := known
    rw [ofCode, if_neg comment, if_neg string, if_neg regex,
      if_neg (by simp [codes, other, comment, string, regex])]
    rfl

end TokenType

namespace FontStyle

theorem toNat_bits_lt (s : FontStyle) : s.bits.toNat < 2 ^ 3 := by
  obtain ⟨italic, bold, underline⟩ := s
  cases italic <;> cases bold <;> cases underline <;> decide

theorem ofBits_bits (s : FontStyle) : ofBits s.bits = s := by
  obtain ⟨italic, bold, underline⟩ := s
  cases italic <;> cases bold <;> cases underline <;> decide

theorem bits_ofBits {bits : UInt32} (small : bits.toNat < 2 ^ 3) : (ofBits bits).bits = bits := by
  have each : ∀ k : Fin 8, (ofBits (.ofNat k)).bits = .ofNat k := by decide
  have read := each ⟨bits.toNat, small⟩
  rwa [UInt32.ofNat_toNat] at read

end FontStyle

namespace Attributes

/-- The word is the sum of its fields at their places. -/
theorem toNat_pack (a : Attributes) :
    a.pack.toNat = a.language.toNat % 2 ^ 8 + a.tokenType.code.toNat * 2 ^ 8 +
      a.fontStyle.bits.toNat * 2 ^ 11 + a.foreground.toNat % 2 ^ 9 * 2 ^ 14 +
      a.background.toNat % 2 ^ 9 * 2 ^ 23 := by
  have type := a.tokenType.toNat_code_lt
  have style := a.fontStyle.toNat_bits_lt
  let language := Field.language.put a.language
  let typed := language ||| Field.tokenType.put a.tokenType.code
  let styled := typed ||| Field.fontStyle.put a.fontStyle.bits
  let colored := styled ||| Field.foreground.put a.foreground
  have one : language.toNat = _ := Field.spans_language.toNat_put a.language
  have two : typed.toNat = _ := Field.spans_tokenType.toNat_or_put language (by omega) _
  have three : styled.toNat = _ := Field.spans_fontStyle.toNat_or_put typed (by omega) _
  have four : colored.toNat = _ := Field.spans_foreground.toNat_or_put styled (by omega) _
  have all : a.pack.toNat = _ := Field.spans_background.toNat_or_put colored (by omega) _
  omega

/-! ## Reading a packed word -/

section Fields

variable (a : Attributes)

theorem get_language_pack : Field.language.get a.pack = Field.language.kept a.language := by
  have word := a.toNat_pack
  apply UInt32.toNat_inj.mp
  rw [Field.spans_language.toNat_get, Field.spans_language.toNat_kept]
  omega

theorem get_tokenType_pack : Field.tokenType.get a.pack = a.tokenType.code := by
  have type := a.tokenType.toNat_code_lt
  have word := a.toNat_pack
  apply UInt32.toNat_inj.mp
  rw [Field.spans_tokenType.toNat_get]
  omega

theorem get_fontStyle_pack : Field.fontStyle.get a.pack = a.fontStyle.bits := by
  have type := a.tokenType.toNat_code_lt
  have style := a.fontStyle.toNat_bits_lt
  have word := a.toNat_pack
  apply UInt32.toNat_inj.mp
  rw [Field.spans_fontStyle.toNat_get]
  omega

theorem get_foreground_pack : Field.foreground.get a.pack = Field.foreground.kept a.foreground := by
  have type := a.tokenType.toNat_code_lt
  have style := a.fontStyle.toNat_bits_lt
  have word := a.toNat_pack
  apply UInt32.toNat_inj.mp
  rw [Field.spans_foreground.toNat_get, Field.spans_foreground.toNat_kept]
  omega

theorem get_background_pack : Field.background.get a.pack = Field.background.kept a.background := by
  have type := a.tokenType.toNat_code_lt
  have style := a.fontStyle.toNat_bits_lt
  have word := a.toNat_pack
  apply UInt32.toNat_inj.mp
  rw [Field.spans_background.toNat_get, Field.spans_background.toNat_kept]
  omega

/-- What is read from a packed word is what was packed, cut to the room of its field. -/
theorem unpack_pack : unpack a.pack = { a with
    language := Field.language.kept a.language
    foreground := Field.foreground.kept a.foreground
    background := Field.background.kept a.background } := by
  unfold unpack
  rw [get_language_pack, get_tokenType_pack, TokenType.ofCode_code, get_fontStyle_pack,
    FontStyle.ofBits_bits, get_foreground_pack, get_background_pack]

end Fields

/-! ## Packing what was read -/

section Words

variable (word : UInt32)

/-- The bits 8 to 10 of a word. -/
def typeBits : BitVec 3 := word.toBitVec.extractLsb' 8 3

/-- The word with its bits 8 to 10 cleared. -/
def withoutType : UInt32 := word &&& ~~~0x700

theorem typeBits_mem_iff :
    typeBits word ∈ [0, 1, 2, 4] ↔ Field.tokenType.get word ∈ TokenType.codes := by
  have bits : (typeBits word).toNat = word.toNat / 2 ^ 8 % 2 ^ 3 := by
    rw [typeBits, BitVec.extractLsb'_toNat, Nat.shiftRight_eq_div_pow]
    rfl
  simp only [TokenType.codes, List.mem_cons, List.not_mem_nil, or_false, ← BitVec.toNat_inj,
    ← UInt32.toNat_inj, bits, Field.spans_tokenType.toNat_get]
  rfl

theorem toNat_withoutType :
    (withoutType word).toNat = word.toNat % 2 ^ 8 + word.toNat / 2 ^ 11 * 2 ^ 11 := by
  have low : word.toNat % 2 ^ 8 < 2 ^ 11 :=
    Nat.lt_of_lt_of_le (Nat.mod_lt _ (by decide)) (by decide)
  have ones : ∀ i < 32, (~~~0x700 : UInt32).toNat.testBit i = decide (i < 8 ∨ 11 ≤ i) := by decide
  rw [withoutType, Nat.add_comm, Nat.mul_comm, Nat.two_pow_add_eq_or_of_lt low, UInt32.toNat_and]
  apply Nat.eq_of_testBit_eq
  intro i
  rw [Nat.testBit_and, Nat.testBit_or, Nat.testBit_two_pow_mul, Nat.testBit_div_two_pow,
    Nat.testBit_mod_two_pow]
  by_cases inside : i < 32
  · rw [ones i inside]
    by_cases high : 11 ≤ i
    · simp [high, Nat.sub_add_cancel high]
    · simp [high, Bool.and_comm]
  · have none : word.toNat.testBit i = false :=
      Nat.testBit_lt_two_pow
        (Nat.lt_of_lt_of_le word.toNat_lt (Nat.pow_le_pow_right (by decide) (by omega)))
    simp [none, show i - 11 + 11 = i by omega]

/-- What is read from a word is packed again as it was, but for the type, of which only the code is
kept. -/
theorem toNat_pack_unpack : (unpack word).pack.toNat =
    (withoutType word).toNat +
      (TokenType.ofCode (Field.tokenType.get word)).code.toNat * 2 ^ 8 := by
  have room := word.toNat_lt
  have style := Field.spans_fontStyle.toNat_get word
  have small : (Field.fontStyle.get word).toNat < 2 ^ 3 := by omega
  rw [toNat_pack, toNat_withoutType]
  simp only [unpack, FontStyle.bits_ofBits small, style, Field.spans_language.toNat_get,
    Field.spans_foreground.toNat_get, Field.spans_background.toNat_get]
  omega

/-- A word that holds the code of a class comes back. -/
theorem pack_unpack_of_code (known : Field.tokenType.get word ∈ TokenType.codes) :
    (unpack word).pack = word := by
  have packed := toNat_pack_unpack word
  rw [TokenType.code_ofCode, if_pos known, Field.spans_tokenType.toNat_get,
    toNat_withoutType] at packed
  apply UInt32.toNat_inj.mp
  omega

/-- A word that holds no code of a class loses its type. -/
theorem pack_unpack_of_no_code (unknown : Field.tokenType.get word ∉ TokenType.codes) :
    (unpack word).pack = withoutType word := by
  have packed := toNat_pack_unpack word
  rw [TokenType.code_ofCode, if_neg unknown] at packed
  exact UInt32.toNat_inj.mp packed

/-- Without its type a word is another one, unless its type was the zero code already. -/
theorem withoutType_ne (unknown : Field.tokenType.get word ∉ TokenType.codes) :
    withoutType word ≠ word := by
  intro same
  have cleared := toNat_withoutType word
  rw [same] at cleared
  have zero : Field.tokenType.get word = 0 := by
    apply UInt32.toNat_inj.mp
    rw [Field.spans_tokenType.toNat_get]
    show _ = 0
    omega
  exact unknown (zero ▸ by decide)

end Words

/-- Words and fields tell the same. What is read from packed fields is what was packed, of a
language its low eight bits and of a slot its low nine, whatever the other fields are. And what is
read from any word is packed to that word again exactly where bits 8 to 10 hold the code of a class;
elsewhere just these three bits are lost. -/
theorem words_round_trip :
    (∀ a : Attributes,
      (unpack a.pack).language.toNat = a.language.toNat % 2 ^ 8 ∧
      (unpack a.pack).tokenType = a.tokenType ∧
      (unpack a.pack).fontStyle = a.fontStyle ∧
      (unpack a.pack).foreground.toNat = a.foreground.toNat % 2 ^ 9 ∧
      (unpack a.pack).background.toNat = a.background.toNat % 2 ^ 9) ∧
    ∀ word : UInt32,
      ((unpack word).pack = word ↔ typeBits word ∈ [0, 1, 2, 4]) ∧
      (typeBits word ∉ [0, 1, 2, 4] → (unpack word).pack = withoutType word) := by
  constructor
  · intro a
    rw [unpack_pack]
    exact ⟨Field.spans_language.toNat_kept _, rfl, rfl, Field.spans_foreground.toNat_kept _,
      Field.spans_background.toNat_kept _⟩
  · intro word
    rw [typeBits_mem_iff]
    refine ⟨⟨?_, pack_unpack_of_code word⟩, pack_unpack_of_no_code word⟩
    intro back
    by_contra unknown
    exact withoutType_ne word unknown ((pack_unpack_of_no_code word unknown).symm.trans back)

/-- A word with all bits set: its type is no code, and its other fields come back. -/
theorem words_round_trip_all_set :
    typeBits 0xFFFFFFFF ∉ [0, 1, 2, 4] ∧ (unpack 0xFFFFFFFF).pack = 0xFFFFF8FF :=
  ⟨by decide, (words_round_trip.2 0xFFFFFFFF).2 (by decide)⟩

end Attributes

end Highlight
