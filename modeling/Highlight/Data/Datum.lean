/-!
# Values read from data files

Themes, configurations and analyzer reports come in more than one file format. A `Datum` is what the
formats have in common, and *records* are read from it in two ways: from a table, whose members are
found by name, or from a list, whose items stand for the fields in their order.

A record found in a table has no field twice. Members that are no field are passed over, or refused
when the record is closed.
-/

namespace Highlight

/-- A value of a data file. Member names are absent where the file spells no valid text. -/
inductive Datum where
  | null
  | bool (b : Bool)
  | natural (n : Nat)
  | text (s : String)
  | list (items : List Datum)
  | table (members : List (Option String × Datum))
  /-- A value that fits no field: another number, a text that is none. -/
  | other

/-- How a record is laid out. -/
structure RecordShape where
  /-- The names of each field. -/
  fields : List (List String)
  /-- Unknown members are refused. -/
  closed : Bool := false
  /-- A list may have more items than there are fields. -/
  surplus : Bool := false

namespace Datum

/-- Puts the members of a table into the slots of their fields. -/
def fill (shape : RecordShape) :
    List (Option Datum) → List (Option String × Datum) → Option (List (Option Datum))
  | slots, [] => some slots
  | _, (none, _) :: _ => none
  | slots, (some key, value) :: members =>
    match shape.fields.findIdx? (·.contains key) with
    | none => if shape.closed then none else fill shape slots members
    | some i =>
      match slots[i]? with
      | some none => fill shape (slots.set i (some value)) members
      | _ => none

/-- The values of a record's fields, in their order; absent where nothing is given. -/
def record? (shape : RecordShape) : Datum → Option (List (Option Datum))
  | .table members => fill shape (shape.fields.map fun _ => none) members
  | .list items =>
    let n := shape.fields.length
    if items.length ≤ n || shape.surplus then
      some ((items.map some ++ List.replicate n none).take n)
    else none
  | _ => none

/-- A text. -/
def text? : Datum → Option String
  | .text s => some s
  | _ => none

/-- A truth value. -/
def bool? : Datum → Option Bool
  | .bool b => some b
  | _ => none

/-- A natural number. -/
def natural? : Datum → Option Nat
  | .natural n => some n
  | _ => none

/-- A text or nothing. -/
def optionalText? : Datum → Option (Option String)
  | .null => some none
  | .text s => some (some s)
  | _ => none

/-- A list of which every item is read in the same way. -/
def listOf? {α : Type} (item : Datum → Option α) : Datum → Option (List α)
  | .list items => items.mapM item
  | _ => none

/-- A table of texts under valid names. -/
def textTable? : Datum → Option (List (String × String))
  | .table members => members.mapM fun (key, value) => do return (← key, ← value.text?)
  | _ => none

/-- A field that may be left out, with the value it then has. -/
def field? {α : Type} (slot : Option Datum) (default : α) (read : Datum → Option α) : Option α :=
  match slot with
  | none => some default
  | some d => read d

end Datum

end Highlight
