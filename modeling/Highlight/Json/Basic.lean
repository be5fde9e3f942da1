import Highlight.Data.Datum
import Highlight.Data.Decimal

/-!
# JSON values

A JSON text is kept as it is written: numbers exactly, members of objects in order and with
repetitions. A string whose escapes leave half of a surrogate pair alone spells no text; it is kept
as a broken string, since a reader that passes over it need not mind.
-/

namespace Highlight

/-- A JSON value. Strings and member names are absent where they are broken. -/
inductive Json where
  | null
  | bool (b : Bool)
  | number (d : Decimal)
  | string (text : Option String)
  | array (items : List Json)
  | object (members : List (Option String × Json))

namespace Json

mutual
/-- The value can be taken at face value: no string is broken, no number overflows, and arrays and
objects are nested at most `depth` deep. -/
def isSound : Nat → Json → Bool
  | _, .null => true
  | _, .bool _ => true
  | _, .number d => d.isFinite
  | _, .string text => text.isSome
  | 0, .array _ => false
  | depth + 1, .array items => areSound depth items
  | 0, .object _ => false
  | depth + 1, .object members => membersSound depth members

/-- All items of an array are sound. -/
def areSound : Nat → List Json → Bool
  | _, [] => true
  | depth, v :: vs => isSound depth v && areSound depth vs

/-- All members of an object are sound. -/
def membersSound : Nat → List (Option String × Json) → Bool
  | _, [] => true
  | depth, (key, v) :: ms => key.isSome && isSound depth v && membersSound depth ms
end

mutual
/-- The value as common data. -/
def toDatum : Json → Datum
  | .null => .null
  | .bool b => .bool b
  | .number d => (d.word64?.map .natural).getD .other
  | .string text => (text.map .text).getD .other
  | .array items => .list (itemsToData items)
  | .object members => .table (membersToData members)

/-- The items of an array as common data. -/
def itemsToData : List Json → List Datum
  | [] => []
  | v :: vs => toDatum v :: itemsToData vs

/-- The members of an object as common data. -/
def membersToData : List (Option String × Json) → List (Option String × Datum)
  | [] => []
  | (key, v) :: ms => (key, toDatum v) :: membersToData ms
end

end Json

end Highlight
