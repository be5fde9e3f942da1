import Highlight.Proofs.Render.Shown
import Mathlib.Algebra.BigOperators.Group.List.Basic
import Mathlib.Algebra.Ring.Nat

/-!
# The delimiters of a page

A tag begins with `<`, and the value of an attribute stands between two `"`. How many of them a page
holds tells whether its data has made markup of its own. `occurrences` counts a character in a text,
and passes through everything that pages are put together with.

A label, the color behind the code and the contents of tokens are escaped, and an escaped text holds
no delimiter (`occurrences_escape`). The colors of tokens are not escaped: of the declarations for a
token it is the color alone that can hold a delimiter, and it brings all that it holds
(`occurrences_style`). A page therefore holds the delimiters of its own tags and attributes, and
besides them exactly those of its colors (`occurrences_render`).
-/

namespace Highlight.Html

/-! ## Counting a character -/

/-- The number of times that a character stands in a text. -/
def occurrences (c : Char) (s : String) : Nat := s.toList.count c

section Occurrences

variable (c : Char)

theorem occurrences_ofList (cs : List Char) : occurrences c (String.ofList cs) = cs.count c := by
  rw [occurrences, String.toList_ofList]

theorem occurrences_append (s t : String) :
    occurrences c (s ++ t) = occurrences c s + occurrences c t := by
  unfold occurrences
  rw [String.toList_append, List.count_append]

theorem occurrences_join (texts : List String) :
    occurrences c (String.join texts) = (texts.map (occurrences c)).sum := by
  unfold occurrences
  rw [String.toList_join, List.count_flatMap]
  rfl

variable {c}

theorem occurrences_eq_zero_iff {s : String} : occurrences c s = 0 ↔ c ∉ s.toList :=
  List.count_eq_zero

theorem occurrences_intercalate {sep : String} (free : c ∉ sep.toList) (texts : List String) :
    occurrences c (sep.intercalate texts) = (texts.map (occurrences c)).sum := by
  induction texts with
  | nil => rfl
  | cons text texts ih =>
    cases texts with
    | nil => simp
    | cons next texts =>
      rw [String.intercalate_cons_cons, occurrences_append, occurrences_append, ih,
        occurrences_eq_zero_iff.mpr free, Nat.add_zero]
      simp

/-- Only line feeds are dropped at the end of the code. -/
theorem occurrences_dropLastFeeds (other : c ≠ '\n') (s : String) :
    occurrences c (dropLastFeeds s) = occurrences c s := by
  have feeds : (s.toList.reverse.takeWhile (· = '\n')).count c = 0 := by
    refine List.count_eq_zero.mpr fun mem => other ?_
    simpa using List.mem_takeWhile_imp mem
  have whole :=
    congrArg (List.count c)
      (List.takeWhile_append_dropWhile (p := (· = '\n')) (l := s.toList.reverse))
  rw [List.count_append, feeds, Nat.zero_add, List.count_reverse] at whole
  unfold occurrences dropLastFeeds
  rw [String.toList_ofList, List.count_reverse, whole]

end Occurrences

/-! ## Tokens -/

/-- The characters that begin a tag and bound the value of an attribute. -/
def delimiters : List Char := ['<', '\x22']

theorem mem_specials_of_delimits {c : Char} (delimits : c ∈ delimiters) : c ∈ specials := by
  simp only [delimiters, List.mem_cons, List.not_mem_nil, or_false] at delimits
  rcases delimits with rfl | rfl <;> decide

theorem occurrences_escape {c : Char} (delimits : c ∈ delimiters) (s : String) :
    occurrences c (escape s) = 0 :=
  occurrences_eq_zero_iff.mpr (notMem_escape (mem_specials_of_delimits delimits) s)

/-- The declarations for a token's look as one text. -/
def style (t : Token) : String := "; ".intercalate (declarations t)

/-- Of the declarations for a token only the color holds delimiters. -/
theorem occurrences_style {c : Char} (delimits : c ∈ delimiters) (t : Token) :
    occurrences c (style t) = occurrences c (t.color.getD "") := by
  have between : ∀ c ∈ delimiters, c ∉ "; ".toList := by simp [delimiters]
  have colored : ∀ c ∈ delimiters, occurrences c "color: " = 0 := by simp [delimiters, occurrences]
  have italic : ∀ c ∈ delimiters, occurrences c "font-style: italic" = 0 := by
    simp [delimiters, occurrences]
  have bold : ∀ c ∈ delimiters, occurrences c "font-weight: bold" = 0 := by
    simp [delimiters, occurrences]
  have underline : ∀ c ∈ delimiters, occurrences c "text-decoration: underline" = 0 := by
    simp [delimiters, occurrences]
  have switched (on : Bool) {text : String} (free : occurrences c text = 0) :
      ((if on then [text] else []).map (occurrences c)).sum = 0 := by
    cases on <;> simp [free]
  unfold style declarations
  rw [occurrences_intercalate (between c delimits), List.map_append, List.map_append,
    List.map_append, List.sum_append, List.sum_append, List.sum_append,
    switched _ (italic c delimits), switched _ (bold c delimits), switched _ (underline c delimits)]
  cases t.color with
  | none => rfl
  | some color => simp [occurrences_append, colored c delimits]

/-- The tags of a token without its data. -/
def tags (t : Token) : String :=
  (if (style t).isEmpty then "<span>" else "<span style=\x22\x22>") ++ "</span>"

/-- A token holds the delimiters of its tags and those of its color. -/
theorem occurrences_token {c : Char} (delimits : c ∈ delimiters) (t : Token) :
    occurrences c (token t) = occurrences c (tags t) + occurrences c (t.color.getD "") := by
  have opening : "<span style=\x22\x22>" = "<span style=\x22" ++ "\x22>" := by decide
  rw [← occurrences_style delimits]
  show occurrences c
      ((if (style t).isEmpty then "<span>" else "<span style=\x22" ++ style t ++ "\x22>") ++
    escape t.content ++ "</span>") = _
  unfold tags
  rw [occurrences_append, occurrences_append, occurrences_append, occurrences_escape delimits]
  by_cases blank : (style t).isEmpty
  · rw [if_pos blank, if_pos blank, String.isEmpty_iff.mp blank]
    rfl
  · rw [if_neg blank, if_neg blank, opening]
    simp only [occurrences_append]
    omega

theorem occurrences_lt_tags (t : Token) : occurrences '<' (tags t) = 2 := by
  unfold tags
  rw [occurrences_append, occurrences_ofList]
  split <;> rw [occurrences_ofList] <;> decide

theorem occurrences_quote_tags (t : Token) :
    occurrences '\x22' (tags t) = if (style t).isEmpty then 0 else 2 := by
  unfold tags
  rw [occurrences_append, occurrences_ofList]
  split <;> rw [occurrences_ofList] <;> decide

/-! ## Pages -/

/-- The tags of a page around its code without their data. -/
def Page.tags (p : Page) : String :=
  "<pre class=\x22scopetint\x22 style=\x22background-color: \x22>" ++
    (if p.language.isSome then "<div class=\x22language-id\x22></div>" else "") ++
      "<code></code></pre>"

/-- The number of times that a character stands in the colors of tokens. -/
def occurrencesInColors (c : Char) (ts : List Token) : Nat :=
  (ts.map fun t => occurrences c (t.color.getD "")).sum

section Pages

variable {c : Char} (delimits : c ∈ delimiters) (p : Page)
include delimits

theorem occurrences_opening :
    occurrences c (p.opening ++ "</code></pre>") = occurrences c p.tags := by
  have page : "<pre class=\x22scopetint\x22 style=\x22background-color: \x22>" =
      "<pre class=\x22scopetint\x22 style=\x22background-color: " ++ "\x22>" := by decide
  have label : "<div class=\x22language-id\x22></div>" =
      "<div class=\x22language-id\x22>" ++ "</div>" := by decide
  have code : "<code></code></pre>" = "<code>" ++ "</code></pre>" := by decide
  unfold Page.opening Page.tags
  rw [page, label, code]
  cases p.language with
  | none =>
    simp only [Option.map_none, Option.getD_none, Option.isSome_none, Bool.false_eq_true, if_false,
      occurrences_append, occurrences_escape delimits]
    omega
  | some l =>
    simp only [Option.map_some, Option.getD_some, Option.isSome_some, if_true, occurrences_append,
      occurrences_escape delimits]
    omega

theorem occurrences_markup (ts : List Token) :
    occurrences c (markup ts) = (ts.map fun t => occurrences c (tags t)).sum +
      occurrencesInColors c ts := by
  have each : occurrences c ∘ token =
      fun t => occurrences c (tags t) + occurrences c (t.color.getD "") := by
    funext t
    rw [Function.comp_apply, occurrences_token delimits]
  unfold markup occurrencesInColors
  rw [occurrences_join, List.map_map, each, List.sum_map_add]

theorem occurrences_lines (lines : List (List Token)) :
    occurrences c (String.join (lines.map line)) = occurrences c (markup lines.flatten) := by
  have feed : ∀ c ∈ delimiters, occurrences c "\n" = 0 := by simp [delimiters, occurrences]
  induction lines with
  | nil => rfl
  | cons ts lines ih =>
    have split : markup (ts ++ lines.flatten) = markup ts ++ markup lines.flatten := by
      simp [markup]
    show occurrences c (String.join (line ts :: lines.map line)) =
        occurrences c (markup (ts ++ lines.flatten))
    rw [String.join_cons, occurrences_append, ih, split, occurrences_append]
    show occurrences c (markup ts ++ "\n") + _ = _
    rw [occurrences_append, feed c delimits, Nat.add_zero]

/-- A page holds the delimiters of its tags and those of its colors. -/
theorem occurrences_page (lines : List (List Token)) :
    occurrences c (render p lines) =
      occurrences c p.tags + (lines.flatten.map fun t => occurrences c (tags t)).sum +
      occurrencesInColors c lines.flatten := by
  have other : ∀ c ∈ delimiters, c ≠ '\n' := by simp [delimiters]
  have around := occurrences_opening delimits p
  rw [occurrences_append] at around
  unfold render
  rw [occurrences_append, occurrences_append, occurrences_dropLastFeeds (other c delimits),
    occurrences_lines delimits, occurrences_markup delimits]
  omega

end Pages

theorem occurrences_lt_pageTags (p : Page) :
    occurrences '<' p.tags = 4 + if p.language.isSome then 2 else 0 := by
  unfold Page.tags
  rw [occurrences_append, occurrences_append, occurrences_ofList, occurrences_ofList]
  split <;> rw [occurrences_ofList] <;> decide

theorem occurrences_quote_pageTags (p : Page) :
    occurrences '\x22' p.tags = 4 + if p.language.isSome then 2 else 0 := by
  unfold Page.tags
  rw [occurrences_append, occurrences_append, occurrences_ofList, occurrences_ofList]
  split <;> rw [occurrences_ofList] <;> decide

/-- The tags of a token hold two `"` if there is a style to write, else none. -/
theorem sum_occurrences_quote_tags (ts : List Token) :
    (ts.map fun t => occurrences '\x22' (tags t)).sum =
      2 * ts.countP fun t => !(style t).isEmpty := by
  induction ts with
  | nil => rfl
  | cons t ts ih =>
    rw [List.map_cons, List.sum_cons, ih, occurrences_quote_tags, List.countP_cons]
    cases (style t).isEmpty <;> simp [Nat.mul_add, Nat.add_comm]

/-- Whatever the label, the page color and the tokens are: a page holds two `<` for each token, four
for the page and two for a label, and two `"` for each token with a style, four for the page and two
for a label. The label, the page color and the contents add none to them, and the colors of tokens
add those that they hold. -/
theorem occurrences_render (p : Page) (lines : List (List Token)) :
    let tokens := lines.flatten
    let label := if p.language.isSome then 2 else 0
    occurrences '<' (render p lines) =
      2 * tokens.length + 4 + label + occurrencesInColors '<' tokens ∧
      occurrences '\x22' (render p lines) =
        4 + 2 * (tokens.countP fun t => !(style t).isEmpty) + label +
          occurrencesInColors '\x22' tokens := by
  dsimp only
  constructor
  · rw [occurrences_page (by decide), occurrences_lt_pageTags]
    simp only [occurrences_lt_tags, List.map_const', List.sum_replicate_nat]
    omega
  · rw [occurrences_page (by decide), occurrences_quote_pageTags, sum_occurrences_quote_tags]
    omega

/-- A color that closes its attribute and its tag and begins a tag of its own. -/
theorem occurrences_render_injected :
    let p : Page := {}
    let lines : List (List Token) := [[⟨"x", some "\x22><script>", {}, none⟩]]
    let tokens := lines.flatten
    let label := if p.language.isSome then 2 else 0
    occurrences '<' (render p lines) ≠ 2 * tokens.length + 4 + label ∧
      occurrences '\x22' (render p lines) ≠
        4 + 2 * (tokens.countP fun t => !(style t).isEmpty) + label := by
  decide +kernel

end Highlight.Html
