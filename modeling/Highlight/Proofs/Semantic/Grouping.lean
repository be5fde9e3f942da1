import Highlight.Semantic.Record
import Mathlib.Data.List.Count

/-!
# Grouping loses and invents nothing

Records are filed one after the other, each behind those of its line, and then every line is sorted.
What a line has after the filing are the spans of the records that name it, in the order of the
records (`getElem?_fileRecords`), so grouping is the same as picking out the records of each line
and sorting them (`groupByLine_eq`).

What sorting means is said without it: the starts rise, and the spans of each start are those that
were given, in the order in which they were given (`StableByStart`). There is one such list for
given spans (`StableByStart.unique`).
-/

namespace Highlight

/-! ## Filing -/

/-- Filing puts the spans of the records that name a line behind those that the line had. -/
theorem getElem?_fileRecords (lines : List (List Span)) (records : List SemanticRecord) (l : Nat) :
    (fileRecords lines records)[l]? =
      lines[l]?.map (· ++ (records.filter (·.line == l)).map (·.span)) := by
  induction records generalizing lines with
  | nil => simp [fileRecords]
  | cons r records ih =>
    have step : fileRecords lines (r :: records) =
        fileRecords (lines.modify r.line (· ++ [r.span])) records := rfl
    rw [step, ih, List.getElem?_modify, List.filter_cons]
    by_cases named : r.line = l
    · simp [named, Function.comp_def]
    · simp [named]

theorem length_fileRecords (lines : List (List Span)) (records : List SemanticRecord) :
    (fileRecords lines records).length = lines.length := by
  induction records generalizing lines with
  | nil => rfl
  | cons r records ih => exact (ih _).trans (List.length_modify _ _ _)

@[simp] theorem length_groupByLine (records : List SemanticRecord) (lineCount : Nat) :
    (groupByLine records lineCount).length = lineCount := by
  rw [groupByLine, List.length_map, length_fileRecords, List.length_replicate]

/-- A line has the spans of the records that name it, sorted. -/
theorem getElem?_groupByLine (records : List SemanticRecord) (lineCount l : Nat) :
    (groupByLine records lineCount)[l]? =
      if l < lineCount then
        some (((records.filter (·.line == l)).map (·.span)).mergeSort fun a b => a.start ≤ b.start)
      else none := by
  rw [groupByLine, List.getElem?_map, getElem?_fileRecords, List.getElem?_replicate]
  split <;> rfl

/-- Grouping is picking out the records of each line and sorting them. -/
theorem groupByLine_eq (records : List SemanticRecord) (lineCount : Nat) :
    groupByLine records lineCount = (List.range lineCount).map fun l =>
      ((records.filter (·.line == l)).map (·.span)).mergeSort fun a b => a.start ≤ b.start := by
  apply List.ext_getElem?
  intro l
  rw [getElem?_groupByLine, List.getElem?_map]
  split
  next inside => rw [List.getElem?_range inside, Option.map_some]
  next outside => rw [List.getElem?_eq_none (by simpa using outside), Option.map_none]

/-! ## Sorting by start -/

theorem start_le_trans (a b c : Span) (ab : decide (a.start ≤ b.start) = true)
    (bc : decide (b.start ≤ c.start) = true) :
    decide (a.start ≤ c.start) = true :=
  decide_eq_true (Nat.le_trans (of_decide_eq_true ab) (of_decide_eq_true bc))

theorem start_le_total (a b : Span) :
    (decide (a.start ≤ b.start) || decide (b.start ≤ a.start)) = true := by
  simpa using Nat.le_total a.start b.start

theorem pairwise_mergeSort_start (spans : List Span) :
    (spans.mergeSort fun a b => a.start ≤ b.start).Pairwise fun a b =>
      decide (a.start ≤ b.start) = true :=
  List.pairwise_mergeSort start_le_trans start_le_total spans

/-- Spans of one start are a sorted part of all spans, which the sort keeps as it is. -/
theorem filter_mergeSort_start (spans : List Span) (start : Nat) :
    (spans.mergeSort fun a b => a.start ≤ b.start).filter (·.start == start) =
      spans.filter (·.start == start) := by
  have level : (spans.filter (·.start == start)).Pairwise fun a b =>
      decide (a.start ≤ b.start) = true := by
    refine List.pairwise_of_forall_mem_list ?_
    intro a memA b memB
    have hereA := (List.mem_filter.mp memA).2
    have hereB := (List.mem_filter.mp memB).2
    simp only [beq_iff_eq] at hereA hereB
    simp only [decide_eq_true_eq]
    omega
  have part :
      (spans.filter (·.start == start)).Sublist (spans.mergeSort fun a b => a.start ≤ b.start) :=
    List.sublist_mergeSort start_le_trans start_le_total level List.filter_sublist
  have within := part.filter (·.start == start)
  rw [List.filter_filter] at within
  simp only [Bool.and_self] at within
  exact (within.eq_of_length ((List.mergeSort_perm spans _).filter _).length_eq.symm).symm

/-- The spans sorted by start: the starts rise, and the spans of each start stand in the order in
which they were given. -/
structure StableByStart (spans sorted : List Span) : Prop where
  rising : sorted.Pairwise fun a b => a.start ≤ b.start
  kept : ∀ start, sorted.filter (·.start == start) = spans.filter (·.start == start)

namespace StableByStart

variable {spans sorted sorted' : List Span}

/-- Sorting loses and invents no span. -/
theorem perm (stable : StableByStart spans sorted) : sorted.Perm spans := by
  rw [List.perm_iff_count]
  intro span
  have counted (ss : List Span) : ss.count span = (ss.filter (·.start == span.start)).count span :=
    (List.count_filter (by simp)).symm
  rw [counted, stable.kept, ← counted]

/-- There is one way to sort. -/
theorem unique (stable : StableByStart spans sorted) (stable' : StableByStart spans sorted') :
    sorted = sorted' := by
  -- the first spans have the least start, and of that start they are the first ones given
  induction sorted generalizing spans sorted' with
  | nil => exact (List.perm_nil.mp (stable'.perm.trans stable.perm.symm)).symm
  | cons a sorted ih =>
    have same := stable.perm.trans stable'.perm.symm
    cases sorted' with
    | nil => exact absurd same.length_eq (by simp)
    | cons b sorted' =>
      have lowA : ∀ s ∈ a :: sorted, a.start ≤ s.start := by
        simpa using (List.pairwise_cons.mp stable.rising).1
      have lowB : ∀ s ∈ b :: sorted', b.start ≤ s.start := by
        simpa using (List.pairwise_cons.mp stable'.rising).1
      have level : a.start = b.start :=
        Nat.le_antisymm (lowA b (same.mem_iff.mpr List.mem_cons_self))
          (lowB a (same.mem_iff.mp List.mem_cons_self))
      have kept (start : Nat) : (a :: sorted).filter (·.start == start) =
          (b :: sorted').filter (·.start == start) :=
        (stable.kept start).trans (stable'.kept start).symm
      obtain rfl : a = b := by
        have first := kept a.start
        rw [List.filter_cons_of_pos (by simp), List.filter_cons_of_pos (by simp [level])] at first
        exact (List.cons.inj first).1
      have later (start : Nat) : sorted'.filter (·.start == start) =
          sorted.filter (·.start == start) := by
        have rest := kept start
        rw [List.filter_cons, List.filter_cons] at rest
        split at rest
        · exact (List.cons.inj rest).2.symm
        · exact rest.symm
      rw [ih ⟨(List.pairwise_cons.mp stable.rising).2, fun _ => rfl⟩
        ⟨(List.pairwise_cons.mp stable'.rising).2, later⟩]

theorem mergeSort (spans : List Span) :
    StableByStart spans (spans.mergeSort fun a b => a.start ≤ b.start) :=
  ⟨(pairwise_mergeSort_start spans).imp of_decide_eq_true, filter_mergeSort_start spans⟩

theorem iff_eq_mergeSort :
    StableByStart spans sorted ↔ sorted = spans.mergeSort fun a b => a.start ≤ b.start := by
  constructor
  · exact fun stable => stable.unique (mergeSort spans)
  · rintro rfl
    exact mergeSort spans

end StableByStart

/-! ## Records read back -/

/-- The records that lines hold, the first of which has the given number. -/
def recordsFrom : Nat → List (List Span) → List SemanticRecord
  | _, [] => []
  | l, spans :: lines => spans.map (SemanticRecord.mk l) ++ recordsFrom (l + 1) lines

/-- A record is held as often as its line has its span. -/
theorem count_recordsFrom (r : SemanticRecord) (l : Nat) (lines : List (List Span)) :
    (recordsFrom l lines).count r =
      if l ≤ r.line then (lines[r.line - l]?.getD []).count r.span else 0 := by
  induction lines generalizing l with
  | nil => simp [recordsFrom]
  | cons spans lines ih =>
    have here : (spans.map (SemanticRecord.mk l)).count r =
        if l = r.line then spans.count r.span else 0 := by
      split
      next same =>
        subst same
        exact List.count_map_of_injective spans (SemanticRecord.mk r.line)
          (fun _ _ same => by simpa using same) r.span
      next other =>
        rw [List.count_eq_zero]
        intro mem
        obtain ⟨span, -, rfl⟩ := List.mem_map.mp mem
        exact other rfl
    rw [recordsFrom, List.count_append, here, ih]
    by_cases same : l = r.line
    · rw [if_pos same, if_neg (by omega), if_pos (by omega), same, Nat.sub_self]
      rfl
    · by_cases low : l ≤ r.line
      · have later : r.line - l = r.line - (l + 1) + 1 := by omega
        rw [if_neg same, if_pos (by omega), if_pos low, later, List.getElem?_cons_succ,
          Nat.zero_add]
      · rw [if_neg same, if_neg (by omega), if_neg low]

/-- Every line has the spans of the records that name it, and no others, sorted by start; spans with
one start stay in the order of the records. What the lines hold is, read back, every record that
names one of them, as often as it was given, and nothing else. -/
theorem groupByLine_stable (records : List SemanticRecord) (lineCount : Nat) :
    (groupByLine records lineCount).length = lineCount ∧
    (∀ l sorted, (groupByLine records lineCount)[l]? = some sorted ↔
      l < lineCount ∧ StableByStart ((records.filter (·.line == l)).map (·.span)) sorted) ∧
    (recordsFrom 0 (groupByLine records lineCount)).Perm (records.filter (·.line < lineCount)) := by
  refine ⟨length_groupByLine records lineCount, ?_, ?_⟩
  · intro l sorted
    rw [getElem?_groupByLine, StableByStart.iff_eq_mergeSort]
    split
    next inside => simp [inside, eq_comm]
    next outside => simp [outside]
  · rw [List.perm_iff_count]
    intro r
    have ofLine : ((records.filter (·.line == r.line)).map (·.span)).count r.span =
        records.count r := by
      rw [List.count, List.countP_map, List.countP_filter, List.count]
      congr 1
      funext other
      obtain ⟨line, span⟩ := r
      obtain ⟨line', span'⟩ := other
      rw [Bool.eq_iff_iff]
      simp [and_comm]
    rw [count_recordsFrom, if_pos (Nat.zero_le _), Nat.sub_zero, getElem?_groupByLine]
    split
    next inside =>
      rw [Option.getD_some, (List.mergeSort_perm _ _).count_eq, ofLine,
        List.count_filter (by simpa using inside)]
    next outside =>
      rw [Option.getD_none, List.count_nil, eq_comm, List.count_eq_zero]
      intro mem
      exact outside (by simpa using (List.mem_filter.mp mem).2)

end Highlight
