import Highlight.Toml.Number
import Highlight.Toml.Table
import Highlight.Toml.Text

/-!
# Reading TOML documents

A document is a sequence of lines: blank lines, comments, headers, and keys with their values. A
header opens a table that the keys after it fill, up to the next header. Values are strings,
numbers, times, truth values, arrays and inline tables; arrays may stretch over lines and end with a
comma, inline tables neither.

Nesting of arrays and inline tables, and the number of parts of a dotted key, stay below
`nestingLimit`.
-/

namespace Highlight.Toml

/-- Arrays and inline tables are nested less deep than this, and dotted keys have fewer parts. -/
def nestingLimit : Nat := 80

/-- The text after its leading spaces and tabs. -/
def skipSpaces (cs : List Char) : List Char := cs.dropWhile isSpace

/-- A character of a key without quotes. -/
def isBareKey (c : Char) : Bool := c.isAlphanum || c == '-' || c == '_'

/-- One part of a key. -/
def simpleKey? (cs : List Char) : Option (String × List Char) :=
  match cs with
  | '\x22' :: _ => lineText? cs
  | '\x27' :: _ => lineText? cs
  | _ =>
    let name := cs.takeWhile isBareKey
    if name.isEmpty then none else some (String.ofList name, cs.drop name.length)

/-- The parts of a key that dots divide; spaces may stand around the dots. `fuel` bounds the number
of parts. -/
def key? : Nat → List Char → Option (List String × List Char)
  | 0, _ => none
  | fuel + 1, cs => do
    let (part, rest) ← simpleKey? (skipSpaces cs)
    match skipSpaces rest with
    | '.' :: rest =>
      let (parts, rest) ← key? fuel rest
      return (part :: parts, rest)
    | rest => return ([part], rest)

/-- The tables a key passes through and its last part. -/
def splitKey? (cs : List Char) : Option (List String × String × List Char) := do
  let (parts, rest) ← key? (cs.length + 1) cs
  let last ← parts.getLast?
  if parts.length < nestingLimit then return (parts.dropLast, last, rest) else none

/-- What follows a comment, which reaches to the end of its line. -/
def skipComment (cs : List Char) : List Char :=
  match cs with
  | '#' :: rest => rest.dropWhile isPlain
  | _ => cs

/-- The end of a line: spaces, perhaps a comment, then a line break or the end of the text. -/
def lineEnd? (cs : List Char) : Option (List Char) :=
  match skipComment (skipSpaces cs) with
  | [] => some []
  | rest => lineBreak? rest

/-- The text after spaces, comments and line breaks, as they may stand between the items of an
array. -/
def skipLines : Nat → List Char → List Char
  | 0, cs => cs
  | fuel + 1, cs =>
    let rest := skipComment (skipSpaces cs)
    match lineBreak? rest with
    | some rest => skipLines fuel rest
    | none => rest

/-- A number, a date or a time. A date or time counts as a table with one nameless member, its
text. -/
def numeral? (cs : List Char) : Option (Datum × List Char) :=
  match dateTime? cs with
  | some rest =>
    let written := cs.take (cs.length - rest.length)
    some (.table [(some "", .text (String.ofList written))], rest)
  | none =>
    match decimalFloat? cs with
    | some (d, rest) => if d.isFinite || d.negative then some (.other, rest) else none
    | none =>
      match specialFloat? cs with
      | some rest => some (.other, rest)
      | none => (integer? cs).map fun rest => (.other, rest)

mutual
/-- A value inside `depth` arrays and inline tables. -/
def value? : Nat → Nat → List Char → Option (Datum × List Char)
  | 0, _, _ => none
  | fuel + 1, depth, cs =>
    match cs with
    | '\x22' :: _ => (text? cs).map fun (s, rest) => (.text s, rest)
    | '\x27' :: _ => (text? cs).map fun (s, rest) => (.text s, rest)
    | 't' :: 'r' :: 'u' :: 'e' :: rest => some (.bool true, rest)
    | 'f' :: 'a' :: 'l' :: 's' :: 'e' :: rest => some (.bool false, rest)
    | '[' :: rest =>
      if depth + 1 < nestingLimit then items? fuel (depth + 1) [] rest else none
    | '\x7b' :: rest =>
      if depth + 1 < nestingLimit then
        match skipSpaces rest with
        | '\x7d' :: rest => some (Table.new.toDatum, rest)
        | rest => members? fuel (depth + 1) .new rest
      else none
    | _ => numeral? cs

/-- The items of an array from the next one on; `items` are those before it, newest first. -/
def items? : Nat → Nat → List Datum → List Char → Option (Datum × List Char)
  | 0, _, _, _ => none
  | fuel + 1, depth, items, cs =>
    match skipLines cs.length cs with
    | ']' :: rest => some (.list items.reverse, rest)
    | cs => do
      let (d, rest) ← value? fuel depth cs
      match skipLines rest.length rest with
      | ',' :: rest => items? fuel depth (d :: items) rest
      | ']' :: rest => return (.list (d :: items).reverse, rest)
      | _ => none

/-- The members of an inline table from the next one on. -/
def members? : Nat → Nat → Table → List Char → Option (Datum × List Char)
  | 0, _, _, _ => none
  | fuel + 1, depth, t, cs => do
    let (path, key, rest) ← splitKey? cs
    let rest ← expect? '=' rest
    let (d, rest) ← value? fuel depth (skipSpaces rest)
    let t ← t.set? path key d
    match skipSpaces rest with
    | ',' :: rest => members? fuel depth t rest
    | '\x7d' :: rest => return (t.toDatum, rest)
    | _ => none
end

/-- A document under construction: what is finished, and the table that the current header
opened. -/
structure Builder where
  root : Table := .new
  current : Table := .new
  /-- Where the current table belongs; absent before the first header. -/
  place : Option (List String × String × Bool) := none

namespace Builder

/-- Puts the current table in its place. -/
def finish? (b : Builder) : Option Table :=
  match b.place with
  | none => some b.current
  | some (path, key, true) => b.root.closeArray? path key b.current
  | some (path, key, false) => b.root.close? path key b.current

/-- Starts the table of a header. -/
def startTable? (b : Builder) (path : List String) (key : String) : Option Builder := do
  let root ← b.finish?
  let (root, current) ← root.open? path key
  return ⟨root, current, some (path, key, false)⟩

/-- Starts the next table of an array of tables. -/
def startArrayTable? (b : Builder) (path : List String) (key : String) : Option Builder := do
  let root ← b.finish?
  let root ← root.openArray? path key
  return ⟨root, .new, some (path, key, true)⟩

end Builder

/-- A header line from its bracket on. -/
def header? (b : Builder) (cs : List Char) : Option (Builder × List Char) := do
  match cs with
  | '[' :: '[' :: rest =>
    let (path, key, rest) ← splitKey? rest
    let rest ← expect? ']' rest >>= expect? ']' >>= lineEnd?
    return (← b.startArrayTable? path key, rest)
  | '[' :: rest =>
    let (path, key, rest) ← splitKey? rest
    let rest ← expect? ']' rest >>= lineEnd?
    return (← b.startTable? path key, rest)
  | _ => none

/-- A line with a key and its value. -/
def assignment? (b : Builder) (cs : List Char) : Option (Builder × List Char) := do
  let (path, key, rest) ← splitKey? cs
  let rest ← expect? '=' rest
  let rest := skipSpaces rest
  let (d, rest) ← value? (2 * rest.length + 2) 0 rest
  let rest ← lineEnd? rest
  return ({ b with current := ← b.current.set? path key d }, rest)

/-- Reads the lines of a document; `fuel` bounds their number. -/
def lines? : Nat → Builder → List Char → Option Builder
  | 0, b, cs => if cs.isEmpty then some b else none
  | fuel + 1, b, cs =>
    match skipSpaces cs with
    | [] => some b
    | '#' :: _ => (lineEnd? cs).bind (lines? fuel b)
    | '\n' :: rest => lines? fuel b rest
    | '\r' :: '\n' :: rest => lines? fuel b rest
    | '[' :: rest => (header? b ('[' :: rest)).bind fun (b, rest) => lines? fuel b rest
    | rest => (assignment? b rest).bind fun (b, rest) => lines? fuel b rest

/-- Reads a whole document. A byte order mark in front is passed over. -/
def parse? (text : String) : Option Datum := do
  let cs := text.toList
  let cs := if cs.head? == some '\uFEFF' then cs.drop 1 else cs
  let b ← lines? (cs.length + 1) {} cs
  return (← b.finish?).toDatum

end Highlight.Toml
