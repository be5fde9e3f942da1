import Highlight.Proofs.Session.Documents
import Mathlib.Data.List.Nodup

/-!
# Records may come in any order

An analyzer reports its records in any order, but a splice takes the spans of a line from left to
right and applies the first of those that overlap. What makes the order of a report irrelevant is
the sorting in between: where no two records start at the same place, each line has one list of
spans by rising start, whichever order they came in (`groupByLine_eq_of_perm`).

Lines meet in a document only through the state of the grammar, which no span touches, and through
what the matcher remembers, which changes no answer. So a line's tokens depend on the records that
name it and on no others (`Ready.lines_getElem?_eq`, `highlight_any_order`).
-/

namespace Highlight

/-! ## Grouping -/

/-- Spans with different starts have one order by rising start. -/
theorem mergeSort_start_eq_of_perm {spans spans' : List Span} (perm : spans.Perm spans')
    (apart : (spans.map (·.start)).Nodup) :
    (spans.mergeSort fun a b => a.start ≤ b.start) =
      spans'.mergeSort fun a b => a.start ≤ b.start := by
  have perms : (spans.mergeSort fun a b => a.start ≤ b.start).Perm
      (spans'.mergeSort fun a b => a.start ≤ b.start) :=
    (List.mergeSort_perm spans _).trans (perm.trans (List.mergeSort_perm spans' _).symm)
  refine List.Perm.eq_of_pairwise ?_ (pairwise_mergeSort_start spans)
    (pairwise_mergeSort_start spans') perms
  intro a b memA memB ab ba
  have inA : a ∈ spans := (List.mergeSort_perm spans _).mem_iff.mp memA
  have inB : b ∈ spans := perm.mem_iff.mpr ((List.mergeSort_perm spans' _).mem_iff.mp memB)
  have same : a.start = b.start := by
    simp only [decide_eq_true_eq] at ab ba
    omega
  exact List.inj_on_of_nodup_map apart inA inB same

/-- On one line, records that differ in line or start differ in start. -/
theorem nodup_starts_of_line {records : List SemanticRecord}
    (apart : (records.map fun r => (r.line, r.span.start)).Nodup) (l : Nat) :
    (((records.filter (·.line == l)).map (·.span)).map (·.start)).Nodup := by
  rw [List.Nodup, List.pairwise_map] at apart
  rw [List.map_map, List.Nodup, List.pairwise_map]
  refine (apart.filter (·.line == l)).imp_of_mem ?_
  intro a b memA memB differ same
  have lineA : a.line = l := by simpa using (List.mem_filter.mp memA).2
  have lineB : b.line = l := by simpa using (List.mem_filter.mp memB).2
  exact differ (Prod.ext (lineA.trans lineB.symm) same)

/-- Grouping forgets the order of records that start at different places. -/
theorem groupByLine_eq_of_perm {records records' : List SemanticRecord}
    (perm : records.Perm records') (apart : (records.map fun r => (r.line, r.span.start)).Nodup)
    (lineCount : Nat) :
    groupByLine records lineCount = groupByLine records' lineCount := by
  rw [groupByLine_eq, groupByLine_eq]
  refine List.map_congr_left fun l _ => ?_
  exact mergeSort_start_eq_of_perm ((perm.filter _).map _) (nodup_starts_of_line apart l)

namespace Session

variable {σ : Type}

/-! ## Lines apart -/

theorem length_lines (g : Grammar σ) (s : Session) (prior : Option σ)
    (input : List (String × List Span)) :
    (lines g s prior input).1.length = input.length := by
  induction input generalizing s prior with
  | nil => rfl
  | cons entry input ih =>
    obtain ⟨line, spans⟩ := entry
    by_cases blank : line = ""
    · rw [lines_blank g s prior spans input blank, List.length_cons, List.length_cons, ih]
    · rw [lines_text g s prior spans input blank, List.length_cons, List.length_cons, ih]

/-- Two runs over the same lines give a line the same tokens where they have the same spans for it,
in sessions that paint alike. The state of the grammar passes from line to line whatever the spans
are. -/
theorem Ready.lines_getElem?_eq {painter : Painter} {explain : Bool} {s s' : Session}
    (ready : Ready painter explain s) (ready' : Ready painter explain s') (g : Grammar σ)
    (prior : Option σ) {input input' : List (String × List Span)}
    (same : input.map Prod.fst = input'.map Prod.fst) {i : Nat} (here : input[i]? = input'[i]?) :
    (Session.lines g s prior input).1[i]? = (Session.lines g s' prior input').1[i]? := by
  induction input generalizing input' s s' prior i with
  | nil =>
    have none : input' = [] := List.map_eq_nil_iff.mp same.symm
    rw [none]
    rfl
  | cons entry input ih =>
    cases input' with
    | nil => cases same
    | cons entry' input' =>
      obtain ⟨line, spans⟩ := entry
      obtain ⟨line', spans'⟩ := entry'
      obtain ⟨rfl, rest⟩ : line = line' ∧ input.map Prod.fst = input'.map Prod.fst :=
        List.cons.inj same
      by_cases blank : line = ""
      · rw [lines_blank g s prior spans input blank, lines_blank g s' prior spans' input' blank]
        cases i with
        | zero => rfl
        | succ i => exact ih ready ready' prior rest here
      · rw [lines_text g s prior spans input blank, lines_text g s' prior spans' input' blank,
          ready.grammarTokens_eq ready' g line prior]
        cases i with
        | zero =>
          obtain rfl : spans = spans' := congrArg Prod.snd (Option.some.inj here)
          exact congrArg some (spliceFrom_eq_of_sound rfl line 0 _ spans ready.sound ready'.sound)
        | succ i => exact ih (ready.splice _ _ _) (ready'.splice _ _ _) _ rest here

/-! ## Documents -/

/-- With fixed records, a document fails where its file cannot be written and nowhere else. -/
theorem highlight_fixed (s : Session) (g : Grammar σ) (text language : String)
    (records : List SemanticRecord) :
    s.highlight g text language (some (.fixed records)) =
      (SourceFile.ofDocument text language).map fun _ =>
      lines g s none ((splitLines text).zip (groupByLine records (splitLines text).length)) := by
  rw [highlight_eq_lines]
  unfold spans
  cases SourceFile.ofDocument text language <;> rfl

/-- The session that has worked on documents. -/
def used (painter : Painter) (explain : Bool) (past : List Document) : Session :=
  ((attemptAll past).run (fresh painter explain)).2

theorem ready_used (painter : Painter) (explain : Bool) (past : List Document) :
    Ready painter explain (used painter explain past) :=
  ((ready_fresh painter explain).attemptAll past).2.1

theorem zip_groupByLine_getElem?_eq (ls : List String) {records records' : List SemanticRecord}
    {i : Nat} (same : records.filter (·.line == i) = records'.filter (·.line == i)) :
    (ls.zip (groupByLine records ls.length))[i]? =
      (ls.zip (groupByLine records' ls.length))[i]? := by
  rw [zip_groupByLine, zip_groupByLine, List.getElem?_map, List.getElem?_map]
  by_cases inside : i < ls.length
  · rw [List.getElem?_range inside, Option.map_some, Option.map_some, same]
  · rw [List.getElem?_eq_none (by simpa using inside), Option.map_none, Option.map_none]

theorem zip_groupByLine_fst (ls : List String) (records : List SemanticRecord) :
    (ls.zip (groupByLine records ls.length)).map Prod.fst = ls :=
  List.map_fst_zip (by simp)

/-- Whatever the grammar, the theme, the palette, the text and the past of the session are: a
document whose file can be written is answered for every list of records, with tokens for each of
its lines. Lists of the same records in another order have the same answer and leave the session the
same, counts included, where no two records share line and start. A line has the same tokens for all
lists that agree on the records of this line, also in sessions with different pasts. -/
theorem highlight_any_order (painter : Painter) (explain : Bool) (g : Grammar σ)
    (text language : String) :
    let answer (past : List Document) (records : List SemanticRecord) :=
      (used painter explain past).highlight g text language (some (.fixed records))
    (∀ past records file, SourceFile.ofDocument text language = .ok file →
      ∃ tokens after,
        answer past records = .ok (tokens, after) ∧ tokens.length = (splitLines text).length) ∧
    (∀ past records records', records.Perm records' →
      (records.map fun r => (r.line, r.span.start)).Nodup →
      answer past records = answer past records') ∧
    ∀ past past' records records' i, records.filter (·.line == i) = records'.filter (·.line == i) →
      (answer past records).map (·.1[i]?) = (answer past' records').map (·.1[i]?) := by
  intro answer
  have answered (past records) : answer past records =
      (SourceFile.ofDocument text language).map fun _ =>
      lines g (used painter explain past) none
        ((splitLines text).zip (groupByLine records (splitLines text).length)) :=
    highlight_fixed _ g text language records
  refine ⟨?_, ?_, ?_⟩
  · intro past records file written
    refine ⟨_, _, (answered past records).trans (by rw [written]; rfl), ?_⟩
    rw [← lines, length_lines, ← List.length_map Prod.fst, zip_groupByLine_fst]
  · intro past records records' perm apart
    rw [answered, answered, groupByLine_eq_of_perm perm apart]
  · intro past past' records records' i same
    rw [answered, answered]
    cases SourceFile.ofDocument text language with
    | error failure => rfl
    | ok file =>
      have lineTokens :=
        (ready_used painter explain past).lines_getElem?_eq
          (ready_used painter explain past') g none
        ((zip_groupByLine_fst _ records).trans (zip_groupByLine_fst _ records').symm)
        (zip_groupByLine_getElem?_eq (splitLines text) same)
      exact congrArg Except.ok lineTokens

/-- Two of the spans on the first line overlap, and only the one that starts first is applied, in
whichever order they are reported. A record more on the first line and one of a missing line leave
the second line alone, and so does a document that came before. -/
theorem highlight_any_order_overlapping :
    let painter : Painter :=
      .ofTheme ⟨"plain", none, none, [⟨none, ⟨["comment"]⟩, ⟨some "#0f0", none, {}⟩⟩]⟩
    let plain : Grammar Unit := ⟨fun _ _ => ([], ()), fun _ _ => ([0, 2], ())⟩
    let records : List SemanticRecord :=
      [⟨1, ⟨1, 2, ["comment"]⟩⟩, ⟨0, ⟨1, 3, ["string"]⟩⟩, ⟨0, ⟨0, 2, ["comment.line"]⟩⟩]
    let records' : List SemanticRecord :=
      [⟨0, ⟨0, 2, ["comment.line"]⟩⟩, ⟨1, ⟨1, 2, ["comment"]⟩⟩, ⟨0, ⟨1, 3, ["string"]⟩⟩]
    let more : List SemanticRecord :=
      ⟨9, ⟨0, 1, ["comment"]⟩⟩ :: ⟨0, ⟨2, 3, ["comment"]⟩⟩ :: records'
    let before : Document := ⟨Unit, plain, "ab", "t", some (.fixed records)⟩
    let answer (past : List Document) (records : List SemanticRecord) :=
      (used painter true past).highlight plain "abc\nde" "t" (some (.fixed records))
    records.Perm records' ∧ (records.map fun r => (r.line, r.span.start)).Nodup ∧
      answer [] records = answer [] records' ∧
      (answer [] records).map (·.2.splicer.stats) = .ok ⟨2, 1⟩ ∧
      records.filter (·.line == 1) = more.filter (·.line == 1) ∧
      (answer [] records).map (·.1[1]?) = (answer [before] more).map (·.1[1]?) ∧
      ∃ tokens after, answer [before] more = .ok (tokens, after) ∧ tokens.length = 2 := by
  intro painter plain records records' more before answer
  have perm : records.Perm records' := by decide
  have apart : (records.map fun r => (r.line, r.span.start)).Nodup := by decide
  have same : records.filter (·.line == 1) = more.filter (·.line == 1) := by decide
  have writable : SourceFile.isWritable (SourceFile.nameOf "abc\nde" "t") := by decide +kernel
  have written : SourceFile.ofDocument "abc\nde" "t" = .ok _ := if_pos writable
  have counted : (answer [] records).map (·.2.splicer.stats) = .ok ⟨2, 1⟩ := by
    have grouped : groupByLine records (splitLines "abc\nde").length =
        [[⟨0, 2, ["comment.line"]⟩, ⟨1, 3, ["string"]⟩], [⟨1, 2, ["comment"]⟩]] := by
      have two : (splitLines "abc\nde").length = 2 := by decide +kernel
      rw [two]
      simp [groupByLine_eq, records, List.range_succ, List.mergeSort]
    show (Session.highlight _ _ _ _ _).map _ = _
    rw [highlight_fixed, written, grouped]
    decide +kernel
  obtain ⟨answered, order, apartLines⟩ := highlight_any_order painter true plain "abc\nde" "t"
  exact ⟨perm, apart, order [] records records' perm apart, counted, same,
    apartLines [] [before] records more 1 same,
    answered [before] more _ written⟩

end Session

end Highlight
