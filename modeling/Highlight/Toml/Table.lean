import Highlight.Data.Datum

/-!
# Tables under construction

A TOML document builds its tables piece by piece, and what may still be added to a table depends on
how it came to be. A table that a longer header passed through is *implicit* and may yet get its own
header. A table that a dotted key passed through is *dotted* and may be extended by further dotted
keys of the same part of the document only. A value, an inline table among them, is complete and is
never extended.

`Table.update?` walks along a path, makes the tables that are missing, and refuses to pass where a
path may not go.
-/

namespace Highlight.Toml

mutual
/-- What a key of a table stands for. -/
inductive Entry where
  | value (d : Datum)
  | table (t : Table)
  /-- An array of tables, the last one first. -/
  | tables (ts : List Table)

/-- A table that may still grow. -/
inductive Table where
  /-- `implicit`: no header of its own yet; `dotted`: made by a dotted key. -/
  | mk (implicit dotted : Bool) (entries : List (String × Entry))
end

namespace Table

/-- The table has no header of its own yet. -/
def implicit : Table → Bool
  | .mk i _ _ => i

/-- The table was made by a dotted key. -/
def dotted : Table → Bool
  | .mk _ d _ => d

/-- The entries of a table in order. -/
def entries : Table → List (String × Entry)
  | .mk _ _ es => es

/-- A table with its own header. -/
def new : Table := .mk false false []

/-- The entry of a key. -/
def get? (t : Table) (key : String) : Option Entry := t.entries.lookup key

/-- Puts an entry in the place of the one with the same key, or at the end. -/
def putEntry (key : String) (e : Entry) : List (String × Entry) → List (String × Entry)
  | [] => [(key, e)]
  | (k, old) :: rest => if k = key then (k, e) :: rest else (k, old) :: putEntry key e rest

/-- The table with an entry. -/
def put (t : Table) (key : String) (e : Entry) : Table :=
  .mk t.implicit t.dotted (putEntry key e t.entries)

/-- The table without the entry of a key. -/
def erase (t : Table) (key : String) : Table :=
  .mk t.implicit t.dotted (t.entries.filter fun (k, _) => k != key)

/-- Changes the table at the end of a path. Missing tables on the way are made, as dotted ones when
the path belongs to a dotted key; an array of tables is entered at its last table. A path may not
pass through a value, and the path of a dotted key may not pass through a table with its own
header. -/
def update? (byDottedKey : Bool) (change : Table → Option Table) :
    List String → Table → Option Table
  | [], t => change t
  | key :: path, t =>
    match t.get? key with
    | none => do
      let inner ← update? byDottedKey change path (.mk true byDottedKey [])
      return t.put key (.table inner)
    | some (.value _) => none
    | some (.table inner) =>
      if byDottedKey && !inner.implicit then none
      else do
        let inner ← update? byDottedKey change path inner
        return t.put key (.table inner)
    | some (.tables []) => none
    | some (.tables (last :: earlier)) => do
      let last ← update? byDottedKey change path last
      return t.put key (.tables (last :: earlier))

/-- Sets a key to a value, through the tables that a dotted key names. Neither an existing key nor a
table that was not made by dotted keys may be reached in this way. -/
def set? (t : Table) (path : List String) (key : String) (d : Datum) : Option Table :=
  update? true (fun inner =>
    if inner.dotted == path.isEmpty || (inner.get? key).isSome then none
    else some (inner.put key (.value d))) path t

/-- Takes the table that a header names out of the document, to be filled: a new one, or one that so
far was implicit and not made by a dotted key. -/
def open? (root : Table) (path : List String) (key : String) : Option (Table × Table) := do
  let found (parent : Table) : Option Table :=
    match parent.get? key with
    | none => some new
    | some (.table t) => if t.implicit && !t.dotted then some (.mk false false t.entries) else none
    | some _ => none
  let root ← update? false (fun parent => (found parent).map fun _ => parent) path root
  let opened ← lookup? root path found
  let root ← update? false (fun parent => some (parent.erase key)) path root
  return (root, opened)
where
  /-- What a reader finds in the table at the end of a path. -/
  lookup? {α : Type} : Table → List String → (Table → Option α) → Option α
    | t, [], read => read t
    | t, key :: path, read =>
      match t.get? key with
      | some (.table inner) => lookup? inner path read
      | some (.tables (last :: _)) => lookup? last path read
      | _ => none

/-- Makes sure that the key can hold an array of tables. -/
def openArray? (root : Table) (path : List String) (key : String) : Option Table :=
  update? false (fun parent =>
    match parent.get? key with
    | none => some parent
    | some (.tables _) => some parent
    | some _ => none) path root

/-- Puts a filled table back in its place. -/
def close? (root : Table) (path : List String) (key : String) (filled : Table) : Option Table :=
  update? false (fun parent =>
    match parent.get? key with
    | none => some (parent.put key (.table filled))
    | some _ => none) path root

/-- Adds a filled table to its array of tables. -/
def closeArray? (root : Table) (path : List String) (key : String) (filled : Table) :
    Option Table :=
  update? false (fun parent =>
    match parent.get? key with
    | none => some (parent.put key (.tables [filled]))
    | some (.tables ts) => some (parent.put key (.tables (filled :: ts)))
    | some _ => none) path root

end Table

mutual
/-- A finished table as common data. -/
def Table.toDatum : Table → Datum
  | .mk _ _ entries => .table (entriesToData entries)

/-- The entries of a finished table as common data. -/
def entriesToData : List (String × Entry) → List (Option String × Datum)
  | [] => []
  | (key, e) :: rest => (some key, entryToDatum e) :: entriesToData rest

/-- A finished entry as common data. -/
def entryToDatum : Entry → Datum
  | .value d => d
  | .table t => t.toDatum
  | .tables ts => .list (tablesToData ts).reverse

/-- An array of tables as common data, the last one first. -/
def tablesToData : List Table → List Datum
  | [] => []
  | t :: ts => t.toDatum :: tablesToData ts
end

end Highlight.Toml
