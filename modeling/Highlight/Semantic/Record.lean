import Highlight.Failure
import Highlight.Json.Reader

/-!
# Records of a semantic analyzer

An analyzer reports stretches of lines with the scopes it found there. Its report is JSON in one of
two forms: a list of records, or a list of groups of records of one line each. Records may come in
any order; `groupByLine` sorts them into the lines of a document and drops those that name no line
of it.
-/

namespace Highlight

/-- A stretch of a line, with scopes in order of preference. -/
structure Span where
  start : Nat
  stop : Nat
  scopes : List String
deriving Repr, DecidableEq

/-- A stretch of some line of a document. -/
structure SemanticRecord where
  line : Nat
  span : Span
deriving Repr, DecidableEq

/-- Files records one after the other: each goes behind the spans that its line has already. Those
that name none of the lines are dropped. -/
def fileRecords (lines : List (List Span)) (records : List SemanticRecord) : List (List Span) :=
  records.foldl (fun lines r => lines.modify r.line (· ++ [r.span])) lines

/-- The spans of each of the first `lineCount` lines by rising start; spans with one start keep
their order. -/
def groupByLine (records : List SemanticRecord) (lineCount : Nat) : List (List Span) :=
  (fileRecords (List.replicate lineCount []) records).map fun spans =>
    spans.mergeSort fun a b => a.start ≤ b.start

namespace SemanticRecord

/-- A span from three fields. -/
def spanOfFields? (start stop scopes : Option Datum) : Option Span := do
  return { start := ← (← start).natural?
           stop := ← (← stop).natural?
           scopes := ← Datum.field? scopes [] (·.listOf? Datum.text?) }

/-- A span of a group. -/
def groupedSpan? (d : Datum) : Option Span := do
  let [start, stop, scopes] ←
    d.record? { fields := [["startIndex"], ["endIndex"], ["scopes"]] } | none
  spanOfFields? start stop scopes

/-- The records of one line. -/
def group? (d : Datum) : Option (List SemanticRecord) := do
  let [line, tokens] ← d.record? { fields := [["line"], ["tokens"]] } | none
  let line ← (← line).natural?
  let spans ← (← tokens).listOf? groupedSpan?
  return spans.map fun span => ⟨line, span⟩

/-- One record. -/
def record? (d : Datum) : Option SemanticRecord := do
  let [line, start, stop, scopes] ←
    d.record? { fields := [["line"], ["startIndex"], ["endIndex"], ["scopes"]] } | none
  return ⟨← (← line).natural?, ← spanOfFields? start stop scopes⟩

/-- How deep a report may be nested. -/
def maxDepth : Nat := 127

/-- The records of a report: groups if all of it are groups, else single records. -/
def parseReport? (text : String) : Option (List SemanticRecord) := do
  let v ← Json.parse? text
  if v.isSound maxDepth then
    ((v.toDatum.listOf? group?).map List.flatten) <|> v.toDatum.listOf? record?
  else none

/-- Reads a report. -/
def parseReport (text : String) : Except Failure (List SemanticRecord) :=
  match parseReport? text with
  | some records => .ok records
  | none => .error (.analyzer .undecodable)

end SemanticRecord

end Highlight
