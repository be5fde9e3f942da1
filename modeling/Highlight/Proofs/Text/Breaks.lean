import Highlight.Text.Lines

/-!
# Lines with text

A text is cut into lines at carriage returns and line feeds, and a carriage return with a line feed
is one cut. Between the lines that hold text that makes no difference: they are what stands between
two breaks, whichever breaks those are and however many stand together (`textLines_eq`). So a gap of
breaks only keeps apart what stands on its two sides (`textLines_append`).
-/

namespace Highlight

/-- A character that ends a line. -/
def isBreak (c : Char) : Bool := c == '\n' || c == '\r'

/-- The lines of a text that are not empty. -/
def textLines (text : String) : List String := (splitLines text).filter (· ≠ "")

theorem splitOnP_break {c : Char} (ends : isBreak c) (cs : List Char) :
    (c :: cs).splitOnP isBreak = [] :: cs.splitOnP isBreak := by
  rw [List.splitOnP_cons_eq_if_modifyHead, if_pos ends]

theorem modifyHead_nil_append (pieces : List (List Char)) :
    pieces.modifyHead ([].reverse ++ ·) = pieces := by
  cases pieces <;> rfl

/-- Up to empty lines, the lines are the pieces between single breaks. The induction is on the
characters, with the current line so far in front of the first piece. -/
theorem filter_linesFrom (line cs : List Char) :
    (linesFrom line cs).filter (· ≠ []) =
      ((cs.splitOnP isBreak).modifyHead (line.reverse ++ ·)).filter (· ≠ []) := by
  fun_induction linesFrom line cs with
  | case1 line => simp
  | case2 line cs ih =>
    -- The pair of breaks is one cut for the lines and two for the pieces, with an empty piece
    -- between.
    rw [splitOnP_break rfl, splitOnP_break rfl, List.filter_cons, ih, modifyHead_nil_append]
    simp [List.filter_cons]
  | case3 line c cs _ ends ih =>
    rw [splitOnP_break (by simpa [isBreak] using ends), List.filter_cons, ih, modifyHead_nil_append]
    simp [List.filter_cons]
  | case4 line c cs _ goes ih =>
    have inLine : ¬ isBreak c = true := by simpa [isBreak] using goes
    rw [List.splitOnP_cons_eq_if_modifyHead, if_neg inLine, ih, List.modifyHead_modifyHead]
    simp [Function.comp_def]

theorem textLines_eq (text : String) :
    textLines text = ((text.toList.splitOnP isBreak).filter (· ≠ [])).map String.ofList := by
  have filled : (fun line => decide (line ≠ "")) ∘ String.ofList = fun cs => decide (cs ≠ []) := by
    funext cs
    simp
  rw [textLines, splitLines, List.filter_map, filled, filter_linesFrom, modifyHead_nil_append]

theorem filter_splitOnP_gap {gap : List Char} (breaks : ∀ c ∈ gap, isBreak c) (back : List Char) :
    ((gap ++ back).splitOnP isBreak).filter (· ≠ []) = (back.splitOnP isBreak).filter (· ≠ []) := by
  induction gap with
  | nil => rfl
  | cons c gap ih =>
    rw [List.cons_append, splitOnP_break (breaks c List.mem_cons_self)]
    exact ih fun other mem => breaks other (List.mem_cons_of_mem _ mem)

/-- A gap of breaks separates the lines with text before it from those behind it. -/
theorem textLines_append {gap : String} (front back : String) (wide : gap ≠ "")
    (breaks : ∀ c ∈ gap.toList, c = '\n' ∨ c = '\r') :
    textLines (front ++ gap ++ back) = textLines front ++ textLines back := by
  have ends : ∀ c ∈ gap.toList, isBreak c := fun c mem => by simpa [isBreak] using breaks c mem
  rw [textLines_eq, textLines_eq, textLines_eq, String.toList_append, String.toList_append,
    List.append_assoc]
  cases shape : gap.toList with
  | nil => exact absurd (String.toList_eq_nil_iff.mp shape) wide
  | cons c rest =>
    rw [shape] at ends
    rw [List.cons_append, List.splitOnP_append_cons _ _ (ends c List.mem_cons_self),
      List.filter_append,
      filter_splitOnP_gap (fun other mem => ends other (List.mem_cons_of_mem _ mem)),
      List.map_append]

end Highlight
