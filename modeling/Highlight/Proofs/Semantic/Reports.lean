import Highlight.Proofs.Data.Records
import Highlight.Semantic.Record
import Mathlib.Algebra.Ring.Nat

/-!
# The two forms of a report

An analyzer may list its records one by one, or group them by lines. Both forms of the same groups
are read to the same records, those of the groups in order, whatever the order of members in an
object and whether or not an empty list of scopes is written (`parseReport_forms_agree`). The forms
cannot be mixed up: groups are tried first, and a record has no `tokens`, so a list with a record in
it is no list of groups. A list that has both an object without `tokens` and an object without
`startIndex` is in neither form and is refused as a whole.

A report is given as a text, and what it says is the JSON value that is read from it.
-/

namespace Highlight

namespace Json

/-- A natural number, written with digits only. -/
def whole (n : Nat) : Json := .number ⟨false, n, 0, true⟩

/-- A list of texts. -/
def texts (list : List String) : Json := .array (list.map fun s => .string (some s))

theorem isSound_whole {n : Nat} (room : n < 2 ^ 64) (depth : Nat) : (whole n).isSound depth := by
  have short : (Nat.toDigits 10 n).length ≤ 20 :=
    (Nat.length_toDigits_le_iff (by decide) (by decide)).mpr (Nat.lt_trans room (by decide))
  have finite : Decimal.isFinite ⟨false, n, 0, true⟩ := by
    rw [Decimal.isFinite, if_pos]
    have small : ((Nat.toDigits 10 n).length : Int) + 0 < 300 := by omega
    rw [decide_eq_true small, Bool.or_true]
  cases depth <;> exact finite

theorem toDatum_whole {n : Nat} (room : n < 2 ^ 64) : (whole n).toDatum = .natural n := by
  have word : Decimal.word64? ⟨false, n, 0, true⟩ = some n := by simpa [Decimal.word64?] using room
  rw [whole, toDatum, word]
  rfl

theorem isSound_texts (list : List String) (depth : Nat) : (texts list).isSound (depth + 1) := by
  apply isSound_array list
  rw [List.forall₂_map_right_iff]
  exact List.forall₂_same.mpr fun s _ => by cases depth <;> rfl

theorem listOf?_texts (list : List String) : (texts list).toDatum.listOf? Datum.text? = some list :=
  listOf?_array_map (fun _ => rfl) list

end Json

open Json (whole texts)

/-! ## What the two forms write -/

/-- The records of one line. -/
structure LineGroup where
  line : Nat
  spans : List Span
deriving Repr, DecidableEq

/-- The offsets of the span have room in 64 bits. -/
def Span.InRange (span : Span) : Prop := span.start < 2 ^ 64 ∧ span.stop < 2 ^ 64

/-- The numbers of the group have room in 64 bits. -/
def LineGroup.InRange (g : LineGroup) : Prop := g.line < 2 ^ 64 ∧ ∀ span ∈ g.spans, span.InRange

/-- The records of groups: those of the first group, then those of the next. -/
def LineGroup.records (groups : List LineGroup) : List SemanticRecord :=
  groups.flatMap fun g => g.spans.map fun span => ⟨g.line, span⟩

/-- The members that write the scopes of a span. Nothing is needed where there are none. -/
inductive WritesScopes : List String → List (String × Json) → Prop where
  | given (scopes : List String) : WritesScopes scopes [("scopes", texts scopes)]
  | leftOut : WritesScopes [] []

/-- The value is an object with the members of a span, and with some others. -/
def Span.Written (span : Span) (others : List (String × Json)) (v : Json) : Prop :=
  ∃ scopes, WritesScopes span.scopes scopes ∧
    v.Holds (others ++ ("startIndex", whole span.start) :: ("endIndex", whole span.stop) :: scopes)

/-- The value is a record in the form of single records. -/
def SemanticRecord.Written (r : SemanticRecord) (v : Json) : Prop :=
  r.span.Written [("line", whole r.line)] v

/-- The value is a group in the form of groups. -/
def LineGroup.Written (g : LineGroup) (v : Json) : Prop :=
  ∃ tokens, List.Forall₂ (fun span token => span.Written [] token) g.spans tokens ∧
    v.Holds [("line", whole g.line), ("tokens", .array tokens)]

/-- The text is a report of the groups. -/
def GroupedReport (groups : List LineGroup) (text : String) : Prop :=
  ∃ items, Json.parse? text = some (.array items) ∧ List.Forall₂ LineGroup.Written groups items

/-- The text is a report of the records one by one. -/
def FlatReport (records : List SemanticRecord) (text : String) : Prop :=
  ∃ items,
    Json.parse? text = some (.array items) ∧ List.Forall₂ SemanticRecord.Written records items

/-! ## Items -/

theorem WritesScopes.isSound {list : List String} {scopes : List (String × Json)}
    (written : WritesScopes list scopes) (depth : Nat) : ∀ m ∈ scopes, m.2.isSound (depth + 1) := by
  intro m mem
  cases written with
  | given =>
    obtain rfl := List.mem_singleton.mp mem
    exact Json.isSound_texts _ _
  | leftOut => cases mem

theorem Span.Written.isSound {span : Span} {others : List (String × Json)} {v : Json}
    (written : span.Written others v) (room : span.InRange) {depth : Nat}
    (sound : ∀ m ∈ others, m.2.isSound (depth + 1)) : v.isSound (depth + 2) := by
  obtain ⟨scopes, given, holds⟩ := written
  apply holds.isSound
  rw [List.forall_mem_append, List.forall_mem_cons, List.forall_mem_cons]
  exact ⟨sound, Json.isSound_whole room.1 _, Json.isSound_whole room.2 _, given.isSound depth⟩

theorem LineGroup.Written.isSound {g : LineGroup} {v : Json} (written : g.Written v)
    (room : g.InRange) (depth : Nat) :
    v.isSound (depth + 4) := by
  obtain ⟨tokens, each, holds⟩ := written
  apply holds.isSound
  rw [List.forall_mem_cons, List.forall_mem_singleton]
  refine ⟨Json.isSound_whole room.1 _, Json.isSound_array g.spans ?_⟩
  refine ((List.forall₂_and_left _ _).mpr ⟨room.2, each⟩).imp ?_
  rintro span token ⟨small, written⟩
  exact written.isSound small (by simp)

namespace SemanticRecord

theorem spanOfFields?_of_written {span : Span} {scopes : List (String × Json)}
    (given : WritesScopes span.scopes scopes) (room : span.InRange) :
    spanOfFields? (some (whole span.start).toDatum) (some (whole span.stop).toDatum)
      (scopes.head?.map (·.2.toDatum)) = some span := by
  have scopes : Datum.field? (scopes.head?.map (·.2.toDatum)) [] (·.listOf? Datum.text?) =
      some span.scopes := by
    obtain ⟨start, stop, list⟩ := span
    cases given with
    | given => exact Json.listOf?_texts list
    | leftOut => rfl
  rw [spanOfFields?, Json.toDatum_whole room.1, Json.toDatum_whole room.2, scopes]
  rfl

theorem groupedSpan?_of_written {span : Span} {v : Json} (written : span.Written [] v)
    (room : span.InRange) :
    groupedSpan? v.toDatum = some span := by
  obtain ⟨scopes, given, holds⟩ := written
  have slots : v.toDatum.record? { fields := [["startIndex"], ["endIndex"], ["scopes"]] } =
      some [some (whole span.start).toDatum, some (whole span.stop).toDatum,
        scopes.head?.map (·.2.toDatum)] := by
    rw [holds.record?]
    obtain ⟨start, stop, list⟩ := span
    cases given <;> rfl
  rw [groupedSpan?, slots]
  exact spanOfFields?_of_written given room

theorem record?_of_written {r : SemanticRecord} {v : Json} (written : r.Written v)
    (line : r.line < 2 ^ 64) (room : r.span.InRange) : record? v.toDatum = some r := by
  obtain ⟨scopes, given, holds⟩ := written
  have slots :
      v.toDatum.record? { fields := [["line"], ["startIndex"], ["endIndex"], ["scopes"]] } =
        some [some (whole r.line).toDatum, some (whole r.span.start).toDatum,
          some (whole r.span.stop).toDatum, scopes.head?.map (·.2.toDatum)] := by
    rw [holds.record?]
    obtain ⟨line, start, stop, list⟩ := r
    cases given <;> rfl
  rw [record?, slots, Json.toDatum_whole line]
  show (spanOfFields? _ _ _).bind _ = _
  rw [spanOfFields?_of_written given room]
  rfl

theorem group?_of_written {g : LineGroup} {v : Json} (written : g.Written v) (room : g.InRange) :
    group? v.toDatum = some (g.spans.map fun span => ⟨g.line, span⟩) := by
  obtain ⟨tokens, each, holds⟩ := written
  have slots : v.toDatum.record? { fields := [["line"], ["tokens"]] } =
      some [some (whole g.line).toDatum, some (Json.array tokens).toDatum] := by
    rw [holds.record?]
    rfl
  have spans : (Json.array tokens).toDatum.listOf? groupedSpan? = some g.spans := by
    apply Json.listOf?_array
    refine ((List.forall₂_and_left _ _).mpr ⟨room.2, each⟩).imp ?_
    rintro span token ⟨small, written⟩
    exact groupedSpan?_of_written written small
  rw [group?, slots, Json.toDatum_whole room.1]
  show ((Json.array tokens).toDatum.listOf? groupedSpan?).bind _ = _
  rw [spans]
  rfl

/-- An object without `tokens` is no group. -/
theorem group?_eq_none {v : Json} (lacks : v.Lacks "tokens") : group? v.toDatum = none := by
  rw [group?]
  cases read : v.toDatum.record? { fields := [["line"], ["tokens"]] } with
  | none => rfl
  | some slots =>
    obtain ⟨long, empty⟩ := lacks.getElem?_record? (i := 1) rfl read
    obtain ⟨line, tokens, rfl⟩ := List.length_eq_two.mp long
    obtain rfl : tokens = none := by simpa using empty
    simp

/-- An object without `startIndex` is no record. -/
theorem record?_eq_none {v : Json} (lacks : v.Lacks "startIndex") : record? v.toDatum = none := by
  rw [record?]
  cases read :
    v.toDatum.record? { fields := [["line"], ["startIndex"], ["endIndex"], ["scopes"]] } with
  | none => rfl
  | some slots =>
    obtain ⟨long, empty⟩ := lacks.getElem?_record? (i := 1) rfl read
    obtain ⟨line, start, stop, scopes, rfl⟩ := List.length_eq_four.mp long
    obtain rfl : start = none := by simpa using empty
    simp [spanOfFields?]

theorem lacks_tokens_of_written {r : SemanticRecord} {v : Json} (written : r.Written v) :
    v.Lacks "tokens" := by
  obtain ⟨scopes, given, holds⟩ := written
  apply holds.lacks
  obtain ⟨line, start, stop, list⟩ := r
  cases given <;> simp

/-! ## Reports -/

/-- A list that can be taken at face value is read as groups, or else as single records. -/
theorem parseReport?_array {text : String} {items : List Json}
    (read : Json.parse? text = some (.array items)) (sound : (Json.array items).isSound maxDepth) :
    parseReport? text = (((Json.array items).toDatum.listOf? group?).map List.flatten <|>
      (Json.array items).toDatum.listOf? record?) := by
  rw [parseReport?, read]
  exact if_pos sound

theorem parseReport?_grouped {groups : List LineGroup} {text : String}
    (room : ∀ g ∈ groups, g.InRange) (report : GroupedReport groups text) :
    parseReport? text = some (LineGroup.records groups) := by
  obtain ⟨items, read, each⟩ := report
  have each := (List.forall₂_and_left _ _).mpr ⟨room, each⟩
  have sound : (Json.array items).isSound maxDepth := by
    apply Json.isSound_array groups
    exact each.imp fun g v written => written.2.isSound written.1 _
  have lists : (Json.array items).toDatum.listOf? group? =
      some (groups.map fun g => g.spans.map fun span => ⟨g.line, span⟩) := by
    apply Json.listOf?_array
    rw [List.forall₂_map_left_iff]
    exact each.imp fun g v written => group?_of_written written.2 written.1
  rw [parseReport?_array read sound, lists, LineGroup.records, List.flatMap_def]
  rfl

theorem parseReport?_flat {records : List SemanticRecord} {text : String}
    (room : ∀ r ∈ records, r.line < 2 ^ 64 ∧ r.span.InRange) (report : FlatReport records text) :
    parseReport? text = some records := by
  obtain ⟨items, read, each⟩ := report
  have small := (List.forall₂_and_left _ _).mpr ⟨room, each⟩
  have sound : (Json.array items).isSound maxDepth := by
    apply Json.isSound_array records
    refine small.imp ?_
    rintro r v ⟨⟨line, span⟩, written⟩
    exact written.isSound span (List.forall_mem_singleton.mpr (Json.isSound_whole line _))
  have single : (Json.array items).toDatum.listOf? record? = some records := by
    apply Json.listOf?_array
    exact small.imp fun r v written => record?_of_written written.2 written.1.1 written.1.2
  rw [parseReport?_array read sound]
  cases each with
  | nil => rfl
  | cons first _ =>
    -- the first record is no group, so the list is none of groups
    rw [Json.listOf?_array_eq_none List.mem_cons_self
      (group?_eq_none (lacks_tokens_of_written first)), single]
    rfl

/-- A list with an object that is no group and an object that is no record is no report. -/
theorem parseReport?_mixed {text : String} {items : List Json}
    (read : Json.parse? text = some (.array items)) {v v' : Json} (mem : v ∈ items)
    (ungrouped : v.Lacks "tokens") (mem' : v' ∈ items) (unplaced : v'.Lacks "startIndex") :
    parseReport? text = none := by
  by_cases sound : (Json.array items).isSound maxDepth
  · rw [parseReport?_array read sound, Json.listOf?_array_eq_none mem (group?_eq_none ungrouped),
      Json.listOf?_array_eq_none mem' (record?_eq_none unplaced)]
    rfl
  · rw [parseReport?, read]
    exact if_neg sound

/-- Groups whose numbers have room in 64 bits are reported in two forms. Every text in either form
is read to the records of the groups. A list that has an object without `tokens` and an object
without `startIndex` is refused. -/
theorem parseReport_forms_agree (groups : List LineGroup) (room : ∀ g ∈ groups, g.InRange) :
    (∀ text, GroupedReport groups text → parseReport text = .ok (LineGroup.records groups)) ∧
    (∀ text, FlatReport (LineGroup.records groups) text →
      parseReport text = .ok (LineGroup.records groups)) ∧
    ∀ text items, Json.parse? text = some (.array items) → (∃ v ∈ items, v.Lacks "tokens") →
      (∃ v ∈ items, v.Lacks "startIndex") → parseReport text = .error (.analyzer .undecodable) := by
  refine ⟨?_, ?_, ?_⟩
  · intro text report
    rw [parseReport, parseReport?_grouped room report]
  · intro text report
    have small : ∀ r ∈ LineGroup.records groups, r.line < 2 ^ 64 ∧ r.span.InRange := by
      intro r mem
      obtain ⟨g, group, inside⟩ := List.mem_flatMap.mp mem
      obtain ⟨span, own, rfl⟩ := List.mem_map.mp inside
      exact ⟨(room g group).1, (room g group).2 span own⟩
    rw [parseReport, parseReport?_flat small report]
  · rintro text items read ⟨v, mem, ungrouped⟩ ⟨v', mem', unplaced⟩
    rw [parseReport, parseReport?_mixed read mem ungrouped mem' unplaced]

/-- A group with its members in another order than the record has them, and both forms in one
list. -/
theorem parseReport_forms_agree_shuffled :
    parseReport
      "[\x7b\"tokens\":[\x7b\"endIndex\":3,\"scopes\":[\"a\"],\"startIndex\":0\x7d],\"line\":2\x7d]" =
      .ok [⟨2, 0, 3, ["a"]⟩] ∧
    parseReport "[\x7b\"line\":2,\"startIndex\":0,\"endIndex\":3,\"scopes\":[\"a\"]\x7d]" =
      .ok [⟨2, 0, 3, ["a"]⟩] ∧
    parseReport "[\x7b\"tokens\":[]\x7d,\x7b\"startIndex\":5\x7d]" =
      .error (.analyzer .undecodable) := by
  have room : ∀ g ∈ [LineGroup.mk 2 [⟨0, 3, ["a"]⟩]], g.InRange := by
    simp [LineGroup.InRange, Span.InRange]
  have agree := parseReport_forms_agree _ room
  refine ⟨agree.1 _ ⟨[.object [
      (some "tokens", .array [.object [(some "endIndex", whole 3), (some "scopes", texts ["a"]),
        (some "startIndex", whole 0)]]),
      (some "line", whole 2)]], ?_, ?_⟩,
    agree.2.1 _ ⟨[.object [(some "line", whole 2), (some "startIndex", whole 0),
      (some "endIndex", whole 3), (some "scopes", texts ["a"])]], ?_, ?_⟩,
    agree.2.2 _ [.object [(some "tokens", .array [])], .object [(some "startIndex", whole 5)]]
      ?_ ?_ ?_⟩
  · simp only [Json.parse?, String.reduceToList]
    rfl
  · have span : Span.Written ⟨0, 3, ["a"]⟩ [] _ :=
      ⟨_, .given _, _, rfl, List.perm_append_singleton _ [_, _]⟩
    exact .cons ⟨_, .cons span .nil, _, rfl, .swap _ _ _⟩ .nil
  · simp only [Json.parse?, String.reduceToList]
    rfl
  · exact .cons ⟨_, .given _, _, rfl, .refl _⟩ .nil
  · simp only [Json.parse?, String.reduceToList]
    rfl
  · exact ⟨_, .tail _ (.head _), _, rfl, by simp⟩
  · exact ⟨_, .head _, _, rfl, by simp⟩

end SemanticRecord

end Highlight
