import Highlight.Proofs.Language.Coloring
import Highlight.Proofs.Language.Packing
import Highlight.Proofs.Language.Registration

/-!
# The language that a word names

Every word of a packed answer carries the number of its language in eight bits, and a registry
numbers its languages without a bound. What is read from a word is therefore the number modulo 256
(`languageOf_lineWords`): the number itself as long as it is below 256, and the number of another
language, or of none, from there on.

Numbers count the ids of a registry (`number_bounds_firstIds`). In a registry with at most 255 ids
words name their languages, and with at most 256 ids they still tell them apart
(`words_name_languages`).
-/

namespace Highlight

/-! ## Words -/

/-- The number of the language that a word names. -/
def languageOf (word : UInt32) : Nat := (Attributes.unpack word).language.toNat

namespace BoundLanguage

variable (b : BoundLanguage)

/-- The words of the packed answer for a line, without their offsets. -/
def lineWords (line : String) (prior : Option LineState) : List UInt32 :=
  (wordPairs (b.grammar.words line prior).1).map Prod.snd

theorem exists_origin_of_mem_packFrom {segments : List Segment} {last : Option UInt32}
    {pair : Nat × UInt32} (mem : pair ∈ wordPairs (b.packFrom last segments)) :
    ∃ o, pair.2 = b.word o := by
  induction segments generalizing last with
  | nil => cases mem
  | cons s segments ih =>
    rw [packFrom] at mem
    split at mem
    next => exact ih mem
    next =>
      rcases List.mem_cons.mp mem with rfl | later
      · exact ⟨s.origin, rfl⟩
      · exact ih later

/-- Every word is that of a rule or of a gap. -/
theorem exists_origin_of_mem_lineWords {line : String} {prior : Option LineState} {w : UInt32}
    (mem : w ∈ b.lineWords line prior) : ∃ o, w = b.word o := by
  obtain ⟨pair, paired, rfl⟩ := List.mem_map.mp mem
  change pair ∈ wordPairs (b.packedWords (b.language.scan line (prior.getD .normal)).1) at paired
  unfold packedWords at paired
  split at paired
  next =>
    obtain rfl := List.mem_singleton.mp paired
    exact ⟨.gap, rfl⟩
  next => exact b.exists_origin_of_mem_packFrom paired

theorem languageOf_word (o : Origin) : languageOf (b.word o) = b.language.number % 256 := by
  unfold languageOf
  rw [unpack_word]
  show (Field.language.kept (.ofNat b.language.number)).toNat = _
  rw [Field.spans_language.toNat_kept, UInt32.toNat_ofNat']
  omega

/-- The words for a line name the number of the language modulo 256. -/
theorem languageOf_lineWords {line : String} {prior : Option LineState} {w : UInt32}
    (mem : w ∈ b.lineWords line prior) : languageOf w = b.language.number % 256 := by
  obtain ⟨o, rfl⟩ := b.exists_origin_of_mem_lineWords mem
  exact b.languageOf_word o

end BoundLanguage

/-! ## Registries -/

namespace Registry

open Unicode (lowercase)

variable {added : List Language} {name other : String} {l l' : Language}

/-- A number counts the ids up to that of its language. -/
theorem number_bounds_firstIds (found : (after added).language name = .ok l) :
    0 < l.number ∧ l.number ≤ (firstIds added).length := by
  obtain ⟨id, resolved⟩ := exists_resolve? found
  have inside := List.idxOf_lt_length_iff.mpr (mem_of_resolve? resolved)
  rw [number_eq resolved found]
  omega

/-- Languages with one number are known under one id, and have one number where they are. -/
theorem number_eq_iff (found : (after added).language name = .ok l)
    (found' : (after added).language other = .ok l') :
    l.number = l'.number ↔ (after added).resolve? name = (after added).resolve? other := by
  obtain ⟨id, resolved⟩ := exists_resolve? found
  obtain ⟨id', resolved'⟩ := exists_resolve? found'
  rw [number_eq resolved found, number_eq resolved' found', Nat.add_right_cancel_iff,
    List.idxOf_inj (mem_of_resolve? resolved), resolved, resolved', Option.some_inj]

/-- After every history, and whatever the themes, the palettes, the lines and the states before them
are: the words for a line name the number of their language modulo 256. That is the number itself
exactly where it is below 256, which all numbers are in a registry with at most 255 ids. Words of
two languages name the same number exactly where their numbers agree modulo 256, and in a registry
with at most 256 ids only where the languages are the same. -/
theorem words_name_languages (found : (after added).language name = .ok l)
    (found' : (after added).language other = .ok l') (theme theme' : Theme)
    (palette palette' : Palette) (line line' : String) (prior prior' : Option LineState)
    {w w' : UInt32} (mem : w ∈ (BoundLanguage.mk l theme palette).lineWords line prior)
    (mem' : w' ∈ (BoundLanguage.mk l' theme' palette').lineWords line' prior') :
    languageOf w = l.number % 256 ∧
      (languageOf w = l.number ↔ l.number < 256) ∧
      ((firstIds added).length ≤ 255 → languageOf w = l.number) ∧
      (languageOf w = languageOf w' ↔ l.number % 256 = l'.number % 256) ∧
      ((firstIds added).length ≤ 256 →
        (languageOf w = languageOf w' ↔
          (after added).resolve? name = (after added).resolve? other)) := by
  have read : languageOf w = l.number % 256 := BoundLanguage.languageOf_lineWords _ mem
  have read' : languageOf w' = l'.number % 256 := BoundLanguage.languageOf_lineWords _ mem'
  have bounds := number_bounds_firstIds found
  have bounds' := number_bounds_firstIds found'
  rw [← number_eq_iff found found', read, read']
  omega

/-- Two languages, the first of them under an id in another case, with a line that has no text. -/
theorem words_name_languages_pair :
    let ada : Language := { Language.new "Ada" "Ada" "ada" with number := 1 }
    let basic : Language := { Language.new "basic" "Basic" "basic" with number := 2 }
    let r := after [Language.new "Ada" "Ada" "ada", Language.new "basic" "Basic" "basic"]
    let theme : Theme := ⟨"plain", none, none, []⟩
    let word : UInt32 := 16793601
    let word' : UInt32 := 16793602
    r.language "aDA" = .ok ada ∧ r.language "BASIC" = .ok basic ∧
      word ∈ (BoundLanguage.mk ada theme (.ofTheme theme)).lineWords "a" none ∧
      word' ∈ (BoundLanguage.mk basic theme (.ofTheme theme)).lineWords "" none ∧
      languageOf word = 1 ∧ languageOf word ≠ languageOf word' := by
  intro ada basic r theme word word'
  have found : r.language "aDA" = .ok ada := by rfl
  have found' : r.language "BASIC" = .ok basic := by rfl
  have mem : word ∈ (BoundLanguage.mk ada theme (.ofTheme theme)).lineWords "a" none := by
    decide +kernel
  have mem' : word' ∈ (BoundLanguage.mk basic theme (.ofTheme theme)).lineWords "" none := by
    decide +kernel
  obtain ⟨-, -, named, -, apart⟩ :=
    words_name_languages found found' theme theme _ _ "a" "" none none mem mem'
  refine ⟨found, found', mem, mem', named (by decide +kernel), ?_⟩
  rw [Ne, apart (by decide +kernel)]
  decide +kernel

/-! ## A registry with too many languages -/

/-- An id of `n` letters. -/
def longId (n : Nat) : String := String.ofList (List.replicate n 'x')

/-- A language without rules under an id of `n` letters. -/
def bare (n : Nat) : Language := Language.new (longId n) "X" "x"

/-- Languages under ids of 0, 1, 2 and so on letters. -/
def crowd (size : Nat) : List Language := (List.range size).map bare

theorem lowercase_longId (n : Nat) : lowercase (longId n) = longId n := by
  have letter (before rest : List Char) : Unicode.lowerChar before 'x' rest = ['x'] := by rfl
  have letters (before : List Char) : Unicode.lowercaseFrom before (List.replicate n 'x') =
      List.replicate n 'x' := by
    induction n generalizing before with
    | zero => rfl
    | succ n ih =>
      rw [List.replicate_succ, Unicode.lowercaseFrom, letter, ih, List.singleton_append]
  unfold lowercase longId
  rw [String.toList_ofList, letters]

theorem longId_injective : Function.Injective longId := by
  intro n m same
  simpa [longId] using congrArg (fun id => id.toList.length) same

theorem firstIds_crowd (size : Nat) : firstIds (crowd size) = (List.range size).map longId := by
  induction size with
  | zero => rfl
  | succ size ih =>
    have new : lowercase (bare size).id ∉ firstIds (crowd size) := by
      rw [ih, show (bare size).id = longId size from rfl, lowercase_longId]
      simp [longId_injective.eq_iff]
    have larger : crowd (size + 1) = crowd size ++ [bare size] := by simp [crowd, List.range_succ]
    rw [larger, firstIds_concat, if_neg new, ih, List.range_succ, List.map_append]
    exact congrArg _ (congrArg (fun id => [id]) (lowercase_longId size))

/-- The languages of the crowd are numbered in order. -/
theorem language_crowd {size n : Nat} (inside : n < size) :
    (after (crowd size)).language (longId n) = .ok { bare n with number := n + 1 } := by
  have here : bare n ∈ crowd size := List.mem_map_of_mem (List.mem_range.mpr inside)
  have resolved : (after (crowd size)).resolve? (longId n) = some (longId n) := by
    rw [resolve?_after, if_pos ⟨bare n, here, rfl⟩, lowercase_longId]
  obtain ⟨l, last, found⟩ := language_after resolved
  have same : l = bare n := by
    obtain ⟨m, -, rfl⟩ := List.mem_map.mp (List.mem_reverse.mp (List.mem_of_find?_eq_some last))
    have ids : lowercase (bare m).id = longId n := by simpa using List.find?_some last
    rw [longId_injective ((lowercase_longId m).symm.trans ids)]
  have place : (firstIds (crowd size)).idxOf (longId n) = n := by
    have at_n : (firstIds (crowd size))[n]? = some (longId n) := by simp [firstIds_crowd, inside]
    obtain ⟨bound, value⟩ := List.getElem?_eq_some_iff.mp at_n
    rw [← value]
    exact (nodup_firstIds _).idxOf_getElem n bound
  rw [found, numbered, place, same]

/-- In a registry of 257 languages the words of the 256th name no language, and those of the 257th
the first one. -/
theorem words_name_languages_crowd :
    let r := after (crowd 257)
    let theme : Theme := ⟨"plain", none, none, []⟩
    let words (l : Language) := (BoundLanguage.mk l theme (.ofTheme theme)).lineWords "a" none
    ∃ first middle last,
      r.language (longId 0) = .ok first ∧ first.number = 1 ∧ (words first).map languageOf = [1] ∧
      r.language (longId 255) = .ok middle ∧ middle.number = 256 ∧
      (words middle).map languageOf = [0] ∧
      r.language (longId 256) = .ok last ∧ last.number = 257 ∧ (words last).map languageOf = [1] ∧
      r.resolve? (longId 0) ≠ r.resolve? (longId 256) := by
  intro r theme words
  have first := language_crowd (show 0 < 257 by decide)
  have last := language_crowd (show 256 < 257 by decide)
  refine ⟨_, _, _, first, rfl, by decide +kernel, language_crowd (by decide), rfl,
    by decide +kernel, last, rfl, by decide +kernel, ?_⟩
  rw [Ne, ← number_eq_iff first last]
  decide

end Registry

end Highlight
