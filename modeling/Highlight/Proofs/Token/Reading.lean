import Highlight.Console.Run
import Highlight.Proofs.Data.Records
import Highlight.Proofs.Json.Writing

/-!
# Printed tokens are read back

The JSON that is printed for the tokens of a document leaves out what is unset: a color, an
explanation, a plain font style. Nothing is lost by that. A reader that takes a missing member for
an unset one gets from the print the same tokens (`readLines?_printLines`), so two documents with
the same print have the same tokens.

Objects are taken as lists of fields, set or not (`Json.ofFields`): the printer writes those that
are set, and the record that is read has nothing in the others.
-/

namespace Highlight

theorem Json.text?_ofText (s : String) : (Json.ofText s).toDatum.text? = some s := rfl

namespace Json.Writable

theorem ofText (s : String) : Writable (.ofText s) := .string s

theorem arrayOf {α : Type} {write : α → Json} (each : ∀ value, Writable (write value))
    (values : List α) :
    Writable (.array (values.map write)) := by
  refine .array fun v mem => ?_
  obtain ⟨value, -, rfl⟩ := List.mem_map.mp mem
  exact each value

theorem ofFields {fields : List (String × Option Json)}
    (each : ∀ f ∈ fields, ∀ v ∈ f.2, Writable v) :
    Writable (.ofFields fields) := by
  have written : ∀ m ∈ fields.filterMap (fun f => f.2.map (some f.1, ·)),
      m.1.isSome ∧ Writable m.2 := by
    intro m mem
    obtain ⟨f, field, set⟩ := List.mem_filterMap.mp mem
    obtain ⟨v, value, rfl⟩ := Option.map_eq_some_iff.mp set
    exact ⟨rfl, each f field v value⟩
  exact .object (fun m mem => (written m mem).1) fun m mem => (written m mem).2

end Json.Writable

/-! ## Explanations -/

namespace ScopeNote

/-- The members under their names. -/
def fields (n : ScopeNote) : List (String × Option Json) :=
  [("scopeName", some (.ofText n.scope)), ("themeMatches", some (.array (n.labels.map .ofText)))]

/-- A scope of an explanation. -/
def ofDatum? (d : Datum) : Option ScopeNote := do
  let [scope, labels] ← d.record? { fields := [["scopeName"], ["themeMatches"]] } | none
  return { scope := ← (← scope).text?
           labels := ← (← labels).listOf? Datum.text? }

theorem toJson_eq (n : ScopeNote) : n.toJson = .ofFields n.fields := rfl

theorem writable (n : ScopeNote) : Json.Writable n.toJson := by
  rw [toJson_eq]
  refine .ofFields ?_
  simp [fields, Json.Writable.ofText, Json.Writable.arrayOf Json.Writable.ofText]

theorem ofDatum?_toJson (n : ScopeNote) : ofDatum? n.toJson.toDatum = some n := by
  have slots : n.toJson.toDatum.record? { fields := [["scopeName"], ["themeMatches"]] } =
      some (n.fields.map fun f => f.2.map Json.toDatum) :=
    Json.record?_ofFields n.fields (by simp [fields])
  have labels : (Json.array (n.labels.map Json.ofText)).toDatum.listOf? Datum.text? =
      some n.labels :=
    Json.listOf?_array_map Json.text?_ofText n.labels
  simp [ofDatum?, slots, fields, Json.text?_ofText, labels]

end ScopeNote

namespace TokenNote

/-- The members under their names. -/
def fields (n : TokenNote) : List (String × Option Json) :=
  [("content", some (.ofText n.content)), ("scopes", some (.array (n.scopes.map ScopeNote.toJson)))]

/-- An entry of an explanation. -/
def ofDatum? (d : Datum) : Option TokenNote := do
  let [content, scopes] ← d.record? { fields := [["content"], ["scopes"]] } | none
  return { content := ← (← content).text?
           scopes := ← (← scopes).listOf? ScopeNote.ofDatum? }

theorem toJson_eq (n : TokenNote) : n.toJson = .ofFields n.fields := rfl

theorem writable (n : TokenNote) : Json.Writable n.toJson := by
  rw [toJson_eq]
  refine .ofFields ?_
  simp [fields, Json.Writable.ofText, Json.Writable.arrayOf ScopeNote.writable]

theorem ofDatum?_toJson (n : TokenNote) : ofDatum? n.toJson.toDatum = some n := by
  have slots : n.toJson.toDatum.record? { fields := [["content"], ["scopes"]] } =
      some (n.fields.map fun f => f.2.map Json.toDatum) :=
    Json.record?_ofFields n.fields (by simp [fields])
  have scopes : (Json.array (n.scopes.map ScopeNote.toJson)).toDatum.listOf? ScopeNote.ofDatum? =
      some n.scopes :=
    Json.listOf?_array_map ScopeNote.ofDatum?_toJson n.scopes
  simp [ofDatum?, slots, fields, Json.text?_ofText, scopes]

end TokenNote

/-! ## Tokens -/

/-- A font style is what its words name. -/
theorem FontStyle.parse_text (s : FontStyle) : parse s.text = s := by
  obtain ⟨italic, bold, underline⟩ := s
  cases italic <;> cases bold <;> cases underline <;> rfl

theorem FontStyle.eq_plain_of_isPlain (s : FontStyle) (plain : s.isPlain) : s = .plain := by
  obtain ⟨italic, bold, underline⟩ := s
  simpa [isPlain, FontStyle.plain, and_assoc] using plain

namespace Token

/-- The members under their names, unset where nothing is written. -/
def fields (t : Token) : List (String × Option Json) :=
  [("content", some (.ofText t.content)), ("color", t.color.map .ofText),
   ("fontStyle", if t.fontStyle.isPlain then none else some (.ofText t.fontStyle.text)),
   ("explanation", t.explanation.map fun ns => .array (ns.map TokenNote.toJson))]

/-- A token. Its content must be there; what is missing of the rest is unset. -/
def ofDatum? (d : Datum) : Option Token := do
  let [content, color, fontStyle, explanation] ←
    d.record? { fields := [["content"], ["color"], ["fontStyle"], ["explanation"]] } | none
  return { content := ← (← content).text?
           color := ← Datum.field? color none fun d => d.text?.map some
           fontStyle := ← Datum.field? fontStyle .plain fun d => d.text?.map FontStyle.parse
           explanation := ← Datum.field? explanation none fun d =>
             (d.listOf? TokenNote.ofDatum?).map some }

theorem toJson_eq (t : Token) : t.toJson = .ofFields t.fields := by
  rw [toJson, fields, Json.ofFields]
  cases t.color <;> cases t.fontStyle.isPlain <;> cases t.explanation <;> rfl

theorem writable (t : Token) : Json.Writable t.toJson := by
  rw [toJson_eq]
  refine .ofFields ?_
  simp [fields, Json.Writable.ofText, Json.Writable.arrayOf TokenNote.writable]

theorem field?_color (color : Option String) :
    Datum.field? ((color.map Json.ofText).map Json.toDatum) none (fun d => d.text?.map some) =
      some color := by
  cases color <;> rfl

/-- A plain style is left out and any other is spelled. -/
theorem field?_fontStyle (s : FontStyle) :
    Datum.field? ((if s.isPlain then none else some (Json.ofText s.text)).map Json.toDatum) .plain
      (fun d => d.text?.map FontStyle.parse) = some s := by
  cases plain : s.isPlain with
  | true => simp [Datum.field?, s.eq_plain_of_isPlain plain]
  | false => simp [Datum.field?, Json.text?_ofText, s.parse_text]

theorem field?_explanation (explanation : Option (List TokenNote)) :
    Datum.field?
      ((explanation.map fun ns => Json.array (ns.map TokenNote.toJson)).map Json.toDatum) none
      (fun d => (d.listOf? TokenNote.ofDatum?).map some) = some explanation := by
  cases explanation with
  | none => rfl
  | some ns =>
    simp [Datum.field?, Json.listOf?_array_map TokenNote.ofDatum?_toJson]

theorem ofDatum?_toJson (t : Token) : ofDatum? t.toJson.toDatum = some t := by
  have slots : t.toJson.toDatum.record?
      { fields := [["content"], ["color"], ["fontStyle"], ["explanation"]] } =
      some (t.fields.map fun f => f.2.map Json.toDatum) := by
    rw [toJson_eq]
    exact Json.record?_ofFields t.fields (by simp [fields])
  simp [ofDatum?, slots, fields, Json.text?_ofText, field?_color, field?_fontStyle,
    field?_explanation, -Option.map_map]

end Token

/-! ## Documents -/

/-- The tokens of a document, line by line, as they are printed. -/
def printLines (lines : List (List Token)) : String := (Json.ofLines lines).pretty ++ "\n"

/-- The tokens of a document, line by line, from a text. -/
def readLines? (text : String) : Option (List (List Token)) := do
  let v ← Json.parse? text
  v.toDatum.listOf? (·.listOf? Token.ofDatum?)

theorem writes_printLines (lines : List (List Token)) :
    Json.Writes (.item (Json.ofLines lines)) (printLines lines).toList :=
  (Json.Writable.arrayOf (Json.Writable.arrayOf Token.writable) lines).writes_line

theorem readLines?_printLines (lines : List (List Token)) :
    readLines? (printLines lines) = some lines := by
  have line (tokens : List Token) :
      (Json.array (tokens.map Token.toJson)).toDatum.listOf? Token.ofDatum? = some tokens :=
    Json.listOf?_array_map Token.ofDatum?_toJson tokens
  rw [readLines?, (writes_printLines lines).parse?]
  exact Json.listOf?_array_map line lines

theorem printLines_injective : Function.Injective printLines := by
  intro lines lines' same
  have read := congrArg readLines? same
  rw [readLines?_printLines, readLines?_printLines] at read
  exact Option.some.inj read

/-- What is printed for the tokens of a document is JSON for them and is read back to them, so no
two documents that differ in a token have the same print. It is what the console shows when it is
asked for JSON. -/
theorem printed_tokens_lose_nothing :
    (∀ lines : List (List Token),
      Json.Writes (.item (Json.ofLines lines)) (printLines lines).toList ∧
      readLines? (printLines lines) = some lines ∧
      ∀ lines', printLines lines' = printLines lines ↔ lines' = lines) ∧
    ∀ (h : Highlighter) (text language : String) (analyzer : Option Analyzer),
      Console.present h .json text language analyzer =
        (h.tokens text language analyzer).map printLines ∧
      (Console.present h .json text language analyzer).map readLines? =
        (h.tokens text language analyzer).map some := by
  constructor
  · intro lines
    exact ⟨writes_printLines lines, readLines?_printLines lines,
      fun _ => printLines_injective.eq_iff⟩
  · intro h text language analyzer
    have shown : Console.present h .json text language analyzer =
        (h.tokens text language analyzer).map printLines := rfl
    refine ⟨shown, ?_⟩
    rw [shown]
    cases h.tokens text language analyzer with
    | error e => rfl
    | ok lines => exact congrArg Except.ok (readLines?_printLines lines)

end Highlight
