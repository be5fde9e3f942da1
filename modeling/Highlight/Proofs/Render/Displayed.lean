import Highlight.Render.Terminal

/-!
# What a terminal displays

A terminal reads a text character by character. Behind an escape character and a bracket it collects
the parameters of a sequence; when these select a graphic rendition, it changes its own rendition,
and every character outside of sequences is displayed in the rendition of that moment
(`Screen.put`). It knows nothing of tokens.

A selection is read back as the numbers that were written (`parameters_intercalate`), so each
sequence that is written for a token does to the rendition what it is for. A token is therefore
displayed in its own look, and what it switches on is off behind it (`feed_token`). That the
rendition is the default one again between tokens is what carries on along lines (`feed_line`) and
documents (`display_render`).
-/

namespace Highlight.Terminal

/-! ## A terminal -/

/-- How characters are displayed. Without a foreground the terminal takes its own. -/
structure Rendition where
  foreground : Option Rgb := none
  bold : Bool := false
  italic : Bool := false
  underline : Bool := false
deriving Repr, DecidableEq

/-- A displayed character. -/
structure Cell where
  char : Char
  rendition : Rendition
deriving Repr, DecidableEq

/-- What the next character belongs to. -/
inductive Reading where
  | text
  /-- An escape character has been read. -/
  | escape
  /-- An escape character, a bracket and the given characters have been read. -/
  | parameters (written : List Char)
deriving Repr, DecidableEq

/-- A terminal: its rendition, what it is reading, and what it has displayed, in order. -/
structure Screen where
  rendition : Rendition := {}
  reading : Reading := .text
  cells : List Cell := []
deriving Repr, DecidableEq

/-- The numbers between semicolons; where nothing is written, the number is 0. -/
def parameters (written : List Char) : List Nat :=
  (written.splitOn ';').map fun digits => Nat.ofDigitChars 10 digits 0

/-- The color with these channels, if none is too large. -/
def rgb? (red green blue : Nat) : Option Rgb :=
  if red < 256 ∧ green < 256 ∧ blue < 256 then some ⟨.ofNat red, .ofNat green, .ofNat blue⟩
    else none

/-- The rendition that a list of parameters selects. 0 selects the default rendition, 1 bold, 3
italic, 4 underline, and 38 with 2 and three channels a foreground. Others are passed over. -/
def Rendition.apply : Rendition → List Nat → Rendition
  | r, [] => r
  | _, 0 :: ps => apply {} ps
  | r, 1 :: ps => apply { r with bold := true } ps
  | r, 3 :: ps => apply { r with italic := true } ps
  | r, 4 :: ps => apply { r with underline := true } ps
  | r, 38 :: 2 :: red :: green :: blue :: ps =>
    apply { r with foreground := (rgb? red green blue).or r.foreground } ps
  | r, _ :: ps => apply r ps

/-- Reads a character. A sequence that selects no rendition displays nothing and changes nothing. -/
def Screen.put (s : Screen) (c : Char) : Screen :=
  match s.reading with
  | .text =>
    if c = '\x1b' then { s with reading := .escape }
      else { s with cells := s.cells ++ [⟨c, s.rendition⟩] }
  | .escape => { s with reading := if c = '[' then .parameters [] else .text }
  | .parameters written =>
    if c.isDigit ∨ c = ';' then { s with reading := .parameters (written ++ [c]) }
    else if c = 'm'
      then { s with reading := .text, rendition := s.rendition.apply (parameters written) }
    else { s with reading := .text }

/-- Reads a text. -/
def Screen.feed (s : Screen) (text : List Char) : Screen := text.foldl put s

/-- What a terminal has displayed when it has read a text, beginning in its default state. -/
def display (text : String) : Screen := Screen.feed {} text.toList

/-! ## Parameters -/

theorem semicolon_notMem_toDigits (n : Nat) : ';' ∉ Nat.toDigits 10 n := by
  intro mem
  have digit := Nat.isDigit_of_mem_toDigits (by decide) (by decide) mem
  exact absurd digit (by decide)

theorem toList_intercalate_numbers (numbers : List Nat) :
    (";".intercalate (numbers.map toString)).toList =
      [';'].intercalate (numbers.map (Nat.toDigits 10)) := by
  rw [String.toList_intercalate, List.map_map]
  exact congrArg _ (List.map_congr_left fun n _ => Nat.toList_repr)

/-- Numbers that are written with semicolons between them are read back. -/
theorem parameters_intercalate {numbers : List Nat} (some : numbers ≠ []) :
    parameters (";".intercalate (numbers.map toString)).toList = numbers := by
  have apart : ∀ digits ∈ numbers.map (Nat.toDigits 10), ';' ∉ digits := by
    intro digits mem
    obtain ⟨n, -, rfl⟩ := List.mem_map.mp mem
    exact semicolon_notMem_toDigits n
  unfold parameters
  rw [toList_intercalate_numbers, List.splitOn_intercalate ';' apart (by simpa using some),
    List.map_map]
  exact List.map_id'' (fun n => Nat.ofDigitChars_ten_toDigits) numbers

/-- Nothing but digits and semicolons is written for numbers. -/
theorem digit_or_semicolon_of_mem {numbers : List Nat} {c : Char}
    (mem : c ∈ (";".intercalate (numbers.map toString)).toList) : c.isDigit ∨ c = ';' := by
  induction numbers with
  | nil => simp at mem
  | cons n numbers ih =>
    have digits (here : c ∈ (toString n).toList) : c.isDigit := by
      rw [Nat.toString_eq_repr, Nat.toList_repr] at here
      exact Nat.isDigit_of_mem_toDigits (by decide) (by decide) here
    cases numbers with
    | nil => exact .inl (digits (by simpa using mem))
    | cons next numbers =>
      rw [List.map_cons, List.map_cons, String.intercalate_cons_cons] at mem
      simp only [String.toList_append, List.mem_append] at mem
      rcases mem with (here | between) | later
      · exact .inl (digits here)
      · exact .inr (by simpa using between)
      · exact ih later

/-! ## Sequences -/

namespace Screen

section Sequences

variable (r : Rendition) (cells : List Cell)

theorem feed_append (s : Screen) (text more : List Char) :
    s.feed (text ++ more) = (s.feed text).feed more :=
  List.foldl_append

theorem feed_parameters {text : List Char} (numeric : ∀ c ∈ text, c.isDigit ∨ c = ';')
    (written : List Char) :
    feed ⟨r, .parameters written, cells⟩ text = ⟨r, .parameters (written ++ text), cells⟩ := by
  induction text generalizing written with
  | nil => simp [feed]
  | cons c text ih =>
    obtain ⟨here, rest⟩ := List.forall_mem_cons.mp numeric
    have step : put ⟨r, .parameters written, cells⟩ c = ⟨r, .parameters (written ++ [c]), cells⟩ :=
      if_pos here
    show feed (put ⟨r, .parameters written, cells⟩ c) text = _
    rw [step, ih rest, List.append_assoc, List.singleton_append]

/-- A sequence selects what its numbers select, and displays nothing. -/
theorem feed_select {numbers : List Nat} (some : numbers ≠ []) :
    feed ⟨r, .text, cells⟩ (select (";".intercalate (numbers.map toString))).toList =
      ⟨r.apply numbers, .text, cells⟩ := by
  have opening : feed ⟨r, .text, cells⟩ "\x1b[".toList = ⟨r, .parameters [], cells⟩ := rfl
  have closing (written : List Char) : feed ⟨r, .parameters written, cells⟩ "m".toList =
      ⟨r.apply (parameters written), .text, cells⟩ := rfl
  unfold select
  rw [String.toList_append, String.toList_append, feed_append, feed_append, opening,
    feed_parameters r cells (fun c => digit_or_semicolon_of_mem), closing, List.nil_append,
    parameters_intercalate some]

theorem feed_foreground (color : Rgb) :
    feed ⟨r, .text, cells⟩ (foreground color).toList =
      ⟨{ r with foreground := some color }, .text, cells⟩ := by
  have numbers : "38;2;" ++ toString color.red.toNat ++ ";" ++ toString color.green.toNat ++ ";" ++
      toString color.blue.toNat =
        ";".intercalate
          ([38, 2, color.red.toNat, color.green.toNat, color.blue.toNat].map toString) := by
    have fixed : "38;2;" = toString 38 ++ ";" ++ (toString 2 ++ ";") := by decide
    rw [fixed]
    simp only [List.map_cons, List.map_nil, String.intercalate_cons_cons,
      String.intercalate_singleton, String.append_assoc]
  have channels : rgb? color.red.toNat color.green.toNat color.blue.toNat = some color := by
    unfold rgb?
    rw [if_pos ⟨color.red.toNat_lt, color.green.toNat_lt, color.blue.toNat_lt⟩]
    simp
  unfold foreground
  rw [numbers, feed_select r cells (by simp)]
  simp [Rendition.apply, channels]

/-- A sequence with one number that may be left out. -/
theorem feed_switch (on : Bool) (n : Nat) :
    feed ⟨r, .text, cells⟩ (if on then select (toString n) else "").toList =
    ⟨if on then r.apply [n] else r, .text, cells⟩ := by
  cases on with
  | false => rfl
  | true => simpa using feed_select r cells (show [n] ≠ [] by simp)

theorem feed_face (f : FontStyle) : feed ⟨r, .text, cells⟩ (face f).toList =
    ⟨{ r with bold := r.bold || f.bold, italic := r.italic || f.italic,
              underline := r.underline || f.underline }, .text, cells⟩ := by
  have bold : "1" = toString 1 := by decide
  have italic : "3" = toString 3 := by decide
  have underline : "4" = toString 4 := by decide
  unfold face
  rw [bold, italic, underline, String.toList_append, String.toList_append, feed_append, feed_append,
    feed_switch, feed_switch, feed_switch]
  obtain ⟨italic, bold, underline⟩ := f
  cases bold <;> cases italic <;> cases underline <;> simp [Rendition.apply]

theorem feed_reset : feed ⟨r, .text, cells⟩ reset.toList = ⟨{}, .text, cells⟩ := by
  rfl

/-- Text without escape characters is displayed as it is. -/
theorem feed_text {text : List Char} (plain : '\x1b' ∉ text) :
    feed ⟨r, .text, cells⟩ text = ⟨r, .text, cells ++ text.map fun c => ⟨c, r⟩⟩ := by
  induction text generalizing cells with
  | nil => simp [feed]
  | cons c text ih =>
    obtain ⟨other, rest⟩ := List.ne_and_not_mem_of_not_mem_cons plain
    have step : put ⟨r, .text, cells⟩ c = ⟨r, .text, cells ++ [⟨c, r⟩]⟩ := if_neg other.symm
    show feed (put ⟨r, .text, cells⟩ c) text = _
    rw [step, ih _ rest, List.append_assoc, List.singleton_append, List.map_cons]

end Sequences

end Screen

/-! ## Tokens -/

/-- The look of a token on a terminal. -/
def look (t : Token) : Rendition where
  foreground := t.color.bind Rgb.parse?
  bold := t.fontStyle.bold
  italic := t.fontStyle.italic
  underline := t.fontStyle.underline

/-- The characters of a token in its look. -/
def cellsOf (t : Token) : List Cell := t.content.toList.map fun c => ⟨c, look t⟩

open Screen

/-- A token without a readable color and without a font style looks like plain text. -/
theorem look_of_unstyled {t : Token}
    (unstyled : ((t.color.bind Rgb.parse?).isSome || !t.fontStyle.isPlain) = false) :
    look t = {} := by
  obtain ⟨uncolored, plain⟩ := Bool.or_eq_false_iff.mp unstyled
  simp only [FontStyle.isPlain, Bool.not_eq_false', Bool.and_eq_true, Bool.not_eq_true'] at plain
  simp only [Option.isSome_eq_false_iff, Option.isNone_iff_eq_none] at uncolored
  simp [look, uncolored, plain]

/-- What stands before the content of a token turns plain text into the token's look. -/
theorem feed_opening (t : Token) (cells : List Cell) :
    feed ⟨{}, .text, cells⟩
        (((t.color.bind Rgb.parse?).map foreground).getD "" ++ face t.fontStyle).toList =
      ⟨look t, .text, cells⟩ := by
  rw [String.toList_append, feed_append]
  unfold look
  cases t.color.bind Rgb.parse? with
  | none =>
    show feed ⟨{}, .text, cells⟩ (face t.fontStyle).toList = _
    simp [feed_face]
  | some color =>
    rw [Option.map_some, Option.getD_some, feed_foreground, feed_face]
    simp

/-- A token is displayed in its look, and nothing of the look is left behind it. -/
theorem feed_token {t : Token} (plain : '\x1b' ∉ t.content.toList) (cells : List Cell) :
    feed ⟨{}, .text, cells⟩ (token t).toList = ⟨{}, .text, cells ++ cellsOf t⟩ := by
  unfold token
  dsimp only
  rw [String.toList_append, String.toList_append, feed_append, feed_append, feed_opening,
    feed_text _ _ plain]
  cases styled : (t.color.bind Rgb.parse?).isSome || !t.fontStyle.isPlain with
  | true => exact feed_reset _ _
  | false =>
    show (⟨look t, .text, cells ++ cellsOf t⟩ : Screen) = _
    rw [look_of_unstyled styled]

/-! ## Documents -/

/-- The tokens of a line in their looks and a plain line feed. -/
def cellsOfLine (ts : List Token) : List Cell := ts.flatMap cellsOf ++ [⟨'\n', {}⟩]

theorem feed_tokens {ts : List Token} (plain : ∀ t ∈ ts, '\x1b' ∉ t.content.toList)
    (cells : List Cell) :
    feed ⟨{}, .text, cells⟩ (String.join (ts.map token)).toList =
      ⟨{}, .text, cells ++ ts.flatMap cellsOf⟩ := by
  induction ts generalizing cells with
  | nil => simp [feed]
  | cons t ts ih =>
    obtain ⟨first, rest⟩ := List.forall_mem_cons.mp plain
    rw [List.map_cons, String.join_cons, String.toList_append, feed_append, feed_token first,
      ih rest, List.flatMap_cons, List.append_assoc]

theorem feed_line {ts : List Token} (plain : ∀ t ∈ ts, '\x1b' ∉ t.content.toList)
    (cells : List Cell) :
    feed ⟨{}, .text, cells⟩ (line ts).toList = ⟨{}, .text, cells ++ cellsOfLine ts⟩ := by
  have ended (cells : List Cell) : feed ⟨{}, .text, cells⟩ "\n".toList =
      ⟨{}, .text, cells ++ [⟨'\n', {}⟩]⟩ := rfl
  unfold line cellsOfLine
  rw [String.toList_append, feed_append, feed_tokens plain, ended, List.append_assoc]

theorem feed_lines {lines : List (List Token)}
    (plain : ∀ ts ∈ lines, ∀ t ∈ ts, '\x1b' ∉ t.content.toList) (cells : List Cell) :
    feed ⟨{}, .text, cells⟩ (render lines).toList =
      ⟨{}, .text, cells ++ lines.flatMap cellsOfLine⟩ := by
  unfold render
  induction lines generalizing cells with
  | nil => simp [feed]
  | cons ts lines ih =>
    obtain ⟨first, rest⟩ := List.forall_mem_cons.mp plain
    rw [List.map_cons, String.join_cons, String.toList_append, feed_append, feed_line first,
      ih rest, List.flatMap_cons, List.append_assoc]

/-- Whatever the tokens are, where no content holds an escape character: a terminal displays the
characters of the tokens in order, each in the foreground that its token's color gives, if it gives
one, and in its token's font style, and behind each line a line feed in the default rendition. Then
it is back in its default state. -/
theorem display_render (lines : List (List Token))
    (plain : ∀ ts ∈ lines, ∀ t ∈ ts, '\x1b' ∉ t.content.toList) :
    display (render lines) =
      { rendition := {}
        reading := .text
        cells := lines.flatMap fun ts =>
          (ts.flatMap fun t => t.content.toList.map fun c =>
            ⟨c, ⟨t.color.bind Rgb.parse?, t.fontStyle.bold, t.fontStyle.italic,
              t.fontStyle.underline⟩⟩) ++
          [⟨'\n', {}⟩] } :=
  feed_lines plain []

/-- A colored bold token, one with a color that cannot be read, one with attributes alone, and a
plain one; a content that looks like the end of a sequence, and a line without tokens. -/
theorem display_render_mixed :
    let lines : List (List Token) :=
      [[⟨"a", some "#010203", ⟨false, true, false⟩, none⟩, ⟨"[0m", some "red", {}, none⟩,
        ⟨"b", some "#12345", ⟨true, false, true⟩, none⟩, ⟨"c", none, {}, none⟩], []]
    (∀ ts ∈ lines, ∀ t ∈ ts, '\x1b' ∉ t.content.toList) ∧
      display (render lines) = ⟨{}, .text,
        [⟨'a', ⟨some ⟨1, 2, 3⟩, true, false, false⟩⟩, ⟨'[', {}⟩, ⟨'0', {}⟩, ⟨'m', {}⟩,
          ⟨'b', ⟨none, false, true, true⟩⟩, ⟨'c', {}⟩, ⟨'\n', {}⟩, ⟨'\n', {}⟩]⟩ := by
  intro lines
  have plain : ∀ ts ∈ lines, ∀ t ∈ ts, '\x1b' ∉ t.content.toList := by decide
  refine ⟨plain, (display_render lines plain).trans ?_⟩
  decide +kernel

end Highlight.Terminal
