import Highlight.Proofs.Token.Spelling
import Highlight.Render.Html
import Mathlib.Data.List.DropRight
import Mathlib.Data.List.Infix

/-!
# What a page shows

A page is read as a browser shows it: what stands between the tags of its code is taken, tags are
left out, and references are replaced by the characters that they stand for (`shownCode?`). The
reader knows nothing of tokens.

Rendering is undone piece by piece. A token reads as its content, whatever follows it
(`shown_token`), since an escaped text opens no tag and its references are complete. The line feeds
at the end of the code are those of the lines without tokens, because every token ends with a tag
(`dropLastFeeds_lines`). What is left are the contents of the lines with line feeds between them
(`shownCode?_render`).
-/

namespace Highlight.Html

/-! ## Reading a page -/

/-- The text behind the first place where the mark stands. -/
def behind? (mark cs : List Char) : Option (List Char) := cs.tails.findSome? (·.dropPrefix? mark)

/-- The text before the last place where the mark stands. -/
def before? (mark cs : List Char) : Option (List Char) :=
  (behind? mark.reverse cs.reverse).map List.reverse

/-- The text without tags. A tag goes from `<` to the next `>`; the first argument says whether one
is open. -/
def withoutTags : Bool → List Char → List Char
  | _, [] => []
  | false, c :: cs => if c = '<' then withoutTags true cs else c :: withoutTags false cs
  | true, c :: cs => withoutTags (c != '>') cs

/-- The text with the characters in the place of their references. What has been read is not read
again. -/
def unescape : List Char → List Char
  | '&' :: 'q' :: 'u' :: 'o' :: 't' :: ';' :: cs => '\x22' :: unescape cs
  | '&' :: 'a' :: 'm' :: 'p' :: ';' :: cs => '&' :: unescape cs
  | '&' :: '#' :: 'x' :: '2' :: '7' :: ';' :: cs => '\x27' :: unescape cs
  | '&' :: '#' :: 'x' :: '2' :: 'f' :: ';' :: cs => '/' :: unescape cs
  | '&' :: 'l' :: 't' :: ';' :: cs => '<' :: unescape cs
  | '&' :: 'g' :: 't' :: ';' :: cs => '>' :: unescape cs
  | c :: cs => c :: unescape cs
  | [] => []

/-- The text that markup shows. -/
def shown (markup : List Char) : List Char := unescape (withoutTags false markup)

@[simp] theorem shown_nil : shown [] = [] := rfl

/-- The text that a page shows between `<code>` and the last `</code>`. -/
def shownCode? (page : String) : Option String := do
  let inside ← behind? "<code>".toList page.toList
  let markup ← before? "</code>".toList inside
  return String.ofList (shown markup)

/-! ## Marks -/

theorem behind?_self (mark cs : List Char) : behind? mark (mark ++ cs) = some cs := by
  have here : (mark ++ cs).dropPrefix? mark = some cs := List.dropPrefix?_append_of_beq cs BEq.rfl
  unfold behind?
  cases text : mark ++ cs with
  | nil => simp [← text, here]
  | cons c rest => rw [List.tails_cons, List.findSome?_cons, ← text, here]

/-- A text in which the mark cannot begin is passed over. -/
theorem behind?_append {first : Char} {mark text : List Char} (free : first ∉ text)
    (cs : List Char) :
    behind? (first :: mark) (text ++ cs) = behind? (first :: mark) cs := by
  induction text with
  | nil => rfl
  | cons c text ih =>
    obtain ⟨other, free⟩ := List.ne_and_not_mem_of_not_mem_cons free
    have missed : (c :: (text ++ cs)).dropPrefix? (first :: mark) = none := by
      simp [List.dropPrefix?, other.symm]
    rw [← ih free]
    unfold behind?
    rw [List.cons_append, List.tails_cons, List.findSome?_cons, missed]

/-! ## Escaped text -/

/-- The characters that no escaped text holds. -/
def specials : List Char := ['\x22', '\x27', '/', '<', '>']

theorem notMem_escapeChar {special : Char} (mem : special ∈ specials) (c : Char) :
    special ∉ escapeChar c := by
  simp only [specials, List.mem_cons, List.not_mem_nil, or_false] at mem
  unfold escapeChar
  split
  case h_7 =>
    -- a character that is written as it is, is none of them
    intro here
    rw [List.mem_singleton.mp here] at mem
    rcases mem with rfl | rfl | rfl | rfl | rfl <;> contradiction
  all_goals
    rcases mem with rfl | rfl | rfl | rfl | rfl <;> decide

theorem notMem_escape {special : Char} (mem : special ∈ specials) (s : String) :
    special ∉ (escape s).toList := by
  unfold escape
  rw [String.toList_ofList, List.mem_flatMap]
  rintro ⟨c, -, here⟩
  exact notMem_escapeChar mem c here

theorem unescape_cons {c : Char} (plain : c ≠ '&') (cs : List Char) :
    unescape (c :: cs) = c :: unescape cs := by
  conv_lhs => unfold unescape
  split <;> simp_all

/-- A character is read back from what is written for it, whatever follows. -/
theorem unescape_escapeChar (c : Char) (cs : List Char) :
    unescape (escapeChar c ++ cs) = c :: unescape cs := by
  unfold escapeChar
  split
  case h_7 other _ _ _ _ => exact unescape_cons other cs
  all_goals rfl

theorem unescape_escape (s : String) (cs : List Char) :
    unescape ((escape s).toList ++ cs) = s.toList ++ unescape cs := by
  unfold escape
  rw [String.toList_ofList]
  induction s.toList with
  | nil => rfl
  | cons c text ih =>
    rw [List.flatMap_cons, List.append_assoc, unescape_escapeChar, ih, List.cons_append]

/-! ## Tags -/

theorem withoutTags_text {text : List Char} (free : '<' ∉ text) (cs : List Char) :
    withoutTags false (text ++ cs) = text ++ withoutTags false cs := by
  induction text with
  | nil => rfl
  | cons c text ih =>
    obtain ⟨other, free⟩ := List.ne_and_not_mem_of_not_mem_cons free
    rw [List.cons_append, withoutTags, if_neg other.symm, ih free, List.cons_append]

theorem withoutTags_open {name : List Char} (free : '>' ∉ name) (cs : List Char) :
    withoutTags true (name ++ '>' :: cs) = withoutTags false cs := by
  induction name with
  | nil => rfl
  | cons c name ih =>
    obtain ⟨other, free⟩ := List.ne_and_not_mem_of_not_mem_cons free
    have goesOn : (c != '>') = true := by simpa using other.symm
    rw [List.cons_append, withoutTags, goesOn, ih free]

theorem notMem_intercalate {c : Char} {sep : String} {texts : List String}
    (between : c ∉ sep.toList) (free : ∀ text ∈ texts, c ∉ text.toList) :
    c ∉ (sep.intercalate texts).toList := by
  induction texts with
  | nil => simp
  | cons text texts ih =>
    obtain ⟨first, rest⟩ := List.forall_mem_cons.mp free
    cases texts with
    | nil => simpa using first
    | cons next texts =>
      rw [String.intercalate_cons_cons]
      simp only [String.toList_append, List.mem_append, not_or]
      exact ⟨⟨first, between⟩, ih rest⟩

/-- Of the declarations for a token only the color could close a tag. -/
theorem gt_notMem_declarations {t : Token} (plain : ∀ color ∈ t.color, '>' ∉ color.toList) :
    ∀ d ∈ declarations t, '>' ∉ d.toList := by
  have switched (on : Bool) {text : String} (free : '>' ∉ text.toList) :
      ∀ d ∈ if on then [text] else [], '>' ∉ d.toList := by
    cases on with
    | false => simp
    | true => simpa using free
  intro d mem
  rcases List.mem_append.mp mem with mem | underline
  · rcases List.mem_append.mp mem with mem | bold
    · rcases List.mem_append.mp mem with colored | italic
      · obtain ⟨color, set, rfl⟩ := Option.map_eq_some_iff.mp (Option.mem_toList.mp colored)
        rw [String.toList_append, List.mem_append, not_or]
        exact ⟨by decide, plain color set⟩
      · exact switched _ (by decide) d italic
    · exact switched _ (by decide) d bold
  · exact switched _ (by decide) d underline

/-! ## Tokens and lines -/

/-- A token is a tag, its escaped content and a closing tag. -/
theorem exists_token {t : Token} (plain : ∀ color ∈ t.color, '>' ∉ color.toList) :
    ∃ name, '>' ∉ name ∧
      (token t).toList = '<' :: name ++ '>' :: ((escape t.content).toList ++ "</span>".toList) := by
  have style := notMem_intercalate (show '>' ∉ "; ".toList by decide) (gt_notMem_declarations plain)
  unfold token
  dsimp only
  split
  next => exact ⟨"span".toList, by decide, by simp⟩
  next =>
    refine ⟨"span style=\x22".toList ++ ("; ".intercalate (declarations t)).toList ++ "\x22".toList,
      ?_, by simp⟩
    simp only [List.mem_append, not_or]
    exact ⟨⟨by decide, style⟩, by decide⟩

/-- A token shows its content, whatever follows it. -/
theorem shown_token {t : Token} (plain : ∀ color ∈ t.color, '>' ∉ color.toList) (cs : List Char) :
    shown ((token t).toList ++ cs) = t.content.toList ++ shown cs := by
  obtain ⟨name, free, markup⟩ := exists_token plain
  have closing : withoutTags false ("</span>".toList ++ cs) = withoutTags false cs := rfl
  unfold shown
  rw [markup, List.cons_append, List.cons_append, withoutTags, if_pos rfl, List.append_assoc,
    List.cons_append, withoutTags_open free, List.append_assoc,
    withoutTags_text (notMem_escape (by decide) _), closing, unescape_escape]

/-- The tokens of a line. -/
def markup (ts : List Token) : String := String.join (ts.map token)

theorem shown_markup {ts : List Token} (plain : ∀ t ∈ ts, ∀ color ∈ t.color, '>' ∉ color.toList)
    (cs : List Char) :
    shown ((markup ts).toList ++ cs) = (spelled ts).toList ++ shown cs := by
  induction ts with
  | nil => rfl
  | cons t ts ih =>
    obtain ⟨first, rest⟩ := List.forall_mem_cons.mp plain
    unfold markup at ih ⊢
    rw [List.map_cons, String.join_cons, String.toList_append, List.append_assoc, shown_token first,
      ih rest, spelled_cons, String.toList_append, List.append_assoc]

theorem shown_feed (cs : List Char) : shown ('\n' :: cs) = '\n' :: shown cs := by
  unfold shown
  rw [withoutTags, if_neg (by decide), unescape_cons (by decide)]

/-- Lines with line feeds between them show their contents with line feeds between them. -/
theorem shown_intercalate {lines : List (List Token)}
    (plain : ∀ ts ∈ lines, ∀ t ∈ ts, ∀ color ∈ t.color, '>' ∉ color.toList) :
    shown ("\n".intercalate (lines.map markup)).toList =
      ("\n".intercalate (lines.map spelled)).toList := by
  induction lines with
  | nil => rfl
  | cons ts lines ih =>
    obtain ⟨first, rest⟩ := List.forall_mem_cons.mp plain
    cases lines with
    | nil => simpa using shown_markup first []
    | cons next lines =>
      have ih := ih rest
      simp only [List.map_cons, String.intercalate_cons_cons, String.toList_append,
        List.append_assoc] at ih ⊢
      rw [shown_markup first, ← ih]
      exact congrArg ((spelled ts).toList ++ ·) (shown_feed _)

/-! ## The end of the code -/

theorem dropLastFeeds_feed (s : String) : dropLastFeeds (s ++ "\n") = dropLastFeeds s := by
  have feed : (s ++ "\n").toList = s.toList ++ ['\n'] := by simp
  unfold dropLastFeeds
  rw [feed, List.reverse_append]
  rfl

theorem dropLastFeeds_of_last {s : String} {front : List Char} {last : Char}
    (ends : s.toList = front ++ [last]) (other : last ≠ '\n') : dropLastFeeds s = s := by
  unfold dropLastFeeds
  rw [ends, List.reverse_append, List.reverse_singleton, List.singleton_append,
    List.dropWhile_cons_of_neg (by simpa using other), List.reverse_cons, List.reverse_reverse,
    ← ends, String.ofList_toList]

/-- The last token of a line ends with a tag. -/
theorem exists_markup_concat (ts : List Token) (t : Token) :
    ∃ front, (markup (ts ++ [t])).toList = front ++ ['>'] := by
  have closing : "</span>".toList = "</span".toList ++ ['>'] := by decide
  unfold markup
  rw [List.map_append, String.join_append, List.map_singleton, String.join_cons, String.join_nil,
    String.append_empty]
  unfold token
  simp only [String.toList_append, closing, ← List.append_assoc]
  exact ⟨_, rfl⟩

theorem join_lines (lines : List (List Token)) (ts : List Token) :
    String.join (lines.map line) ++ markup ts = "\n".intercalate ((lines ++ [ts]).map markup) := by
  induction lines with
  | nil => simp
  | cons first lines ih =>
    obtain ⟨next, more, later⟩ : ∃ next more, lines ++ [ts] = next :: more :=
      List.exists_cons_of_ne_nil (by simp)
    rw [List.cons_append, List.map_cons, List.map_cons, String.join_cons, String.append_assoc, ih,
      later, List.map_cons, String.intercalate_cons_cons]
    rfl

/-- The line feeds at the end of the code are those of the last lines without tokens and of the line
before them. -/
theorem dropLastFeeds_lines (lines : List (List Token)) :
    dropLastFeeds (String.join (lines.map line)) =
      "\n".intercalate ((lines.rdropWhile List.isEmpty).map markup) := by
  induction lines using List.reverseRecOn with
  | nil => rfl
  | append_singleton lines ts ih =>
    have last : String.join ((lines ++ [ts]).map line) =
        String.join (lines.map line) ++ markup ts ++ "\n" := by
      rw [List.map_append, String.join_append, List.map_singleton, String.join_cons,
        String.join_nil, String.append_empty, String.append_assoc]
      rfl
    rw [last, dropLastFeeds_feed]
    by_cases blank : ts = []
    · subst blank
      rw [List.rdropWhile_concat_pos _ _ _ rfl, ← ih]
      exact congrArg dropLastFeeds String.append_empty
    · obtain ⟨front, t, rfl⟩ := (List.eq_nil_or_concat' ts).resolve_left blank
      obtain ⟨text, ends⟩ := exists_markup_concat front t
      have stays : (String.join (lines.map line) ++ markup (front ++ [t])).toList =
          (String.join (lines.map line)).toList ++ text ++ ['>'] := by
        rw [String.toList_append, ends, List.append_assoc]
      rw [dropLastFeeds_of_last stays (by decide), List.rdropWhile_concat_neg _ _ _ (by simp),
        join_lines]

/-! ## Pages -/

/-- The code begins behind the first tag that says so: the label and the page color are escaped. -/
theorem behind?_opening (p : Page) (cs : List Char) :
    behind? "<code>".toList (p.opening.toList ++ cs) = some cs := by
  have skip {text : List Char} (free : '<' ∉ text) (cs : List Char) :
      behind? "<code>".toList (text ++ cs) = behind? "<code>".toList cs := behind?_append free cs
  have page (cs : List Char) :
      behind? "<code>".toList
        ("<pre class=\x22scopetint\x22 style=\x22background-color: ".toList ++ cs) =
        behind? "<code>".toList cs := rfl
  have label (cs : List Char) :
      behind? "<code>".toList ("<div class=\x22language-id\x22>".toList ++ cs) =
      behind? "<code>".toList cs := rfl
  have labelled (cs : List Char) : behind? "<code>".toList ("</div>".toList ++ cs) =
      behind? "<code>".toList cs := rfl
  unfold Page.opening
  simp only [String.toList_append, List.append_assoc]
  rw [page, skip (notMem_escape (by decide) _), skip (by decide)]
  cases p.language with
  | none => exact behind?_self _ cs
  | some l =>
    simp only [Option.map_some, Option.getD_some, String.toList_append, List.append_assoc]
    rw [label, skip (notMem_escape (by decide) _), labelled, behind?_self]

theorem before?_closing (cs : List Char) :
    before? "</code>".toList (cs ++ "</code></pre>".toList) = some cs := by
  have ends : "</code></pre>".toList.reverse =
      "</pre>".toList.reverse ++ "</code>".toList.reverse := by decide
  have skip (cs : List Char) : behind? "</code>".toList.reverse ("</pre>".toList.reverse ++ cs) =
      behind? "</code>".toList.reverse cs := rfl
  unfold before?
  rw [List.reverse_append, ends, List.append_assoc, skip, behind?_self, Option.map_some,
    List.reverse_reverse]

/-- Whatever the label, the page color and the tokens are, where no color holds a `>`: a page shows
the contents of the lines with line feeds between them, without the last lines that have no
tokens. -/
theorem shownCode?_render (p : Page) (lines : List (List Token))
    (plain : ∀ ts ∈ lines, ∀ t ∈ ts, ∀ color ∈ t.color, '>' ∉ color.toList) :
    shownCode? (render p lines) =
      some ("\n".intercalate ((lines.rdropWhile List.isEmpty).map spelled)) := by
  have kept : ∀ ts ∈ lines.rdropWhile List.isEmpty, ∀ t ∈ ts, ∀ color ∈ t.color,
      '>' ∉ color.toList :=
    fun ts mem => plain ts ((List.rdropWhile_prefix List.isEmpty lines).subset mem)
  have inside : behind? "<code>".toList (render p lines).toList =
      some ((dropLastFeeds (String.join (lines.map line))).toList ++ "</code></pre>".toList) := by
    unfold render
    rw [String.toList_append, String.toList_append, List.append_assoc, behind?_opening]
  unfold shownCode?
  simp only [inside, before?_closing, Option.bind_eq_bind, Option.bind_some, Option.pure_def]
  rw [dropLastFeeds_lines, shown_intercalate kept, String.ofList_toList]

/-- A content that looks like a reference, one that looks like a tag, a line feed within a token, a
token without text as all of a line, and lines without tokens; the label and the page color hold the
marks of the code. -/
theorem shownCode?_render_lookalikes :
    let p : Page := ⟨some "<code>", some "</code>\x22"⟩
    let lines : List (List Token) :=
      [[⟨"&lt;", some "#0f0", ⟨true, true, false⟩, none⟩, ⟨"</code>\n", none, {}, none⟩,
        ⟨"&", none, {}, none⟩,
        ⟨"amp;", none, {}, none⟩], [], [⟨"", none, {}, none⟩], [], []]
    (∀ ts ∈ lines, ∀ t ∈ ts, ∀ color ∈ t.color, '>' ∉ color.toList) ∧
      shownCode? (render p lines) = some "&lt;</code>\n&amp;\n\n" := by
  intro p lines
  have plain : ∀ ts ∈ lines, ∀ t ∈ ts, ∀ color ∈ t.color, '>' ∉ color.toList := by decide
  have contents : "\n".intercalate ((lines.rdropWhile List.isEmpty).map spelled) =
      "&lt;</code>\n&amp;\n\n" := by
    decide
  exact ⟨plain, (shownCode?_render p lines plain).trans (congrArg some contents)⟩

end Highlight.Html
