import Highlight.Json.Basic
import Mathlib.Data.List.Forall2

/-!
# Records do not depend on the order of members

A record is read from a table by putting each member into the slot of its field (`Datum.place`).
Members of one table may come in any order: two of them go into different slots, or the second is
refused whichever it is (`Datum.fill_perm`). A field that no member names stays empty
(`Datum.getElem?_fill`).

A JSON object is a table of its members, so of an object it is enough to know which members it holds
(`Json.Holds.record?`). An object that is written field by field, with nothing for a field that is
unset, gives its record back (`Json.record?_ofFields`).
-/

namespace Highlight

/-- A list is read when each of its items is. -/
theorem mapM_eq_some_iff {α β : Type} {read : α → Option β} {items : List α} {values : List β} :
    items.mapM read = some values ↔
      List.Forall₂ (fun item value => read item = some value) items values := by
  induction items generalizing values with
  | nil => cases values <;> simp
  | cons item items ih =>
    rw [List.mapM_cons, Option.bind_eq_bind, Option.bind_eq_some_iff]
    constructor
    · rintro ⟨value, first, others⟩
      obtain ⟨rest, later, joined⟩ := Option.bind_eq_some_iff.mp others
      cases joined
      exact .cons first (ih.mp later)
    · rintro (_ | ⟨first, later⟩)
      exact ⟨_, first, Option.bind_eq_some_iff.mpr ⟨_, ih.mpr later, rfl⟩⟩

/-- One item that is not read is enough for a list not to be read. -/
theorem mapM_eq_none_of_mem {α β : Type} {read : α → Option β} {items : List α} {item : α}
    (mem : item ∈ items) (unread : read item = none) : items.mapM read = none := by
  induction items with
  | nil => cases mem
  | cons first items ih =>
    rw [List.mapM_cons]
    rcases List.mem_cons.mp mem with rfl | later
    · rw [unread]
      rfl
    · rw [ih later]
      cases read first <;> rfl

namespace Datum

variable {shape : RecordShape} {slots slots' : List (Option Datum)}
    {members members' : List (Option String × Datum)}

/-! ## Slots -/

/-- Puts a value into an empty slot. -/
def put (slots : List (Option Datum)) (i : Nat) (value : Datum) : Option (List (Option Datum)) :=
  match slots[i]? with
  | some none => some (slots.set i (some value))
  | _ => none

/-- Puts one member of a table into the slot of its field. -/
def place (shape : RecordShape) (slots : List (Option Datum)) :
    Option String × Datum → Option (List (Option Datum))
  | (none, _) => none
  | (some key, value) =>
    match shape.fields.findIdx? (·.contains key) with
    | none => if shape.closed then none else some slots
    | some i => put slots i value

theorem fill_cons (member : Option String × Datum) :
    fill shape slots (member :: members) =
      (place shape slots member).bind fun slots => fill shape slots members := by
  obtain ⟨_ | key, value⟩ := member
  · rfl
  · rw [fill, place]
    cases shape.fields.findIdx? (·.contains key) with
    | none => cases shape.closed <;> rfl
    | some i =>
      unfold put
      dsimp only
      cases slots[i]? with
      | none => rfl
      | some slot => cases slot <;> rfl

theorem put_eq_some_iff {i : Nat} {value : Datum} :
    put slots i value = some slots' ↔
      slots[i]? = some none ∧ slots' = slots.set i (some value) := by
  unfold put
  split
  next empty => simp [empty, eq_comm]
  next filled => exact iff_of_false (by simp) fun both => filled both.1

/-- Of two values for one slot the second is refused. -/
theorem put_put_self (i : Nat) (value value' : Datum) :
    (put slots i value).bind (put · i value') = none := by
  rw [Option.bind_eq_none_iff]
  intro slots' first
  obtain ⟨empty, rfl⟩ := put_eq_some_iff.mp first
  obtain ⟨inside, -⟩ := List.getElem?_eq_some_iff.mp empty
  rw [put, List.getElem?_set_self inside]

/-- It makes no difference which of two slots is filled first. -/
theorem put_comm (slots : List (Option Datum)) (i j : Nat) (value value' : Datum) :
    (put slots i value).bind (put · j value') = (put slots j value').bind (put · i value) := by
  by_cases same : i = j
  · subst same
    rw [put_put_self, put_put_self]
  · -- filling one of the two leaves the other as it is
    have apart (i j : Nat) (value value' : Datum) (ne : i ≠ j) (filled : List (Option Datum)) :
        (put slots i value).bind (put · j value') = some filled ↔
          slots[i]? = some none ∧ slots[j]? = some none ∧
          filled = (slots.set i (some value)).set j (some value') := by
      simp only [Option.bind_eq_some_iff, put_eq_some_iff]
      constructor
      · rintro ⟨_, ⟨empty, rfl⟩, empty', rfl⟩
        rw [List.getElem?_set_ne ne] at empty'
        exact ⟨empty, empty', rfl⟩
      · rintro ⟨empty, empty', rfl⟩
        exact ⟨_, ⟨empty, rfl⟩, by rw [List.getElem?_set_ne ne]; exact empty', rfl⟩
    ext filled
    rw [apart i j value value' same, apart j i value' value (Ne.symm same), List.set_comm _ _ same]
    tauto

theorem place_comm (slots : List (Option Datum)) (a b : Option String × Datum) :
    (place shape slots a).bind (place shape · b) =
      (place shape slots b).bind (place shape · a) := by
  obtain ⟨_ | key, value⟩ := a
  · cases place shape slots b <;> rfl
  · obtain ⟨_ | key', value'⟩ := b
    · cases place shape slots (some key, value) <;> rfl
    · unfold place
      dsimp only
      cases shape.fields.findIdx? (·.contains key) with
      | none => cases shape.fields.findIdx? (·.contains key') <;> cases shape.closed <;> simp
      | some i =>
        cases shape.fields.findIdx? (·.contains key') with
        | none => cases shape.closed <;> simp
        | some j => exact put_comm slots i j value value'

/-! ## Tables -/

/-- A record is the same for every order of the members. -/
theorem fill_perm (same : members.Perm members') (slots : List (Option Datum)) :
    fill shape slots members = fill shape slots members' := by
  induction same generalizing slots with
  | nil => rfl
  | cons member _ ih =>
    rw [fill_cons, fill_cons]
    exact Option.bind_congr fun slots _ => ih slots
  | swap a b members =>
    have two (a b : Option String × Datum) : fill shape slots (a :: b :: members) =
        ((place shape slots a).bind (place shape · b)).bind fun slots =>
          fill shape slots members := by
      rw [fill_cons, Option.bind_assoc]
      exact Option.bind_congr fun slots _ => fill_cons b
    rw [two, two, place_comm]
  | trans _ _ ih ih' => rw [ih, ih']

/-- A slot changes only by a member that names its field. -/
theorem getElem?_place {member : Option String × Datum} {i : Nat}
    (placed : place shape slots member = some slots')
    (other : ∀ key, member.1 = some key → shape.fields.findIdx? (·.contains key) ≠ some i) :
    slots'.length = slots.length ∧ slots'[i]? = slots[i]? := by
  obtain ⟨_ | key, value⟩ := member
  · cases placed
  · have ne := other key rfl
    rw [place] at placed
    cases found : shape.fields.findIdx? (·.contains key) with
    | none =>
      rw [found] at placed
      cases closed : shape.closed with
      | true => simp [closed] at placed
      | false =>
        simp only [closed, Bool.false_eq_true, if_false, Option.some_inj] at placed
        subst placed
        exact ⟨rfl, rfl⟩
    | some j =>
      rw [found] at placed ne
      obtain ⟨-, rfl⟩ := put_eq_some_iff.mp placed
      exact ⟨List.length_set, List.getElem?_set_ne fun same => ne (congrArg some same)⟩

/-- A field that no member names keeps what its slot holds. -/
theorem getElem?_fill {i : Nat} (filled : fill shape slots members = some slots')
    (absent : ∀ member ∈ members, ∀ key,
      member.1 = some key → shape.fields.findIdx? (·.contains key) ≠ some i) :
    slots'.length = slots.length ∧ slots'[i]? = slots[i]? := by
  induction members generalizing slots with
  | nil =>
    cases filled
    exact ⟨rfl, rfl⟩
  | cons member members ih =>
    rw [fill_cons] at filled
    obtain ⟨between, placed, later⟩ := Option.bind_eq_some_iff.mp filled
    obtain ⟨others, absent⟩ := List.forall_mem_cons.mp absent
    obtain ⟨long, same⟩ := getElem?_place placed others
    obtain ⟨long', same'⟩ := ih later absent
    exact ⟨long'.trans long, same'.trans same⟩

/-- Fields that are set are put into their slots one after the other, behind those that went
before. -/
theorem fill_fields (earlier later : List (String × Option Datum))
    (distinct : ((earlier ++ later).map Prod.fst).Nodup) :
    fill { fields := (earlier ++ later).map fun f => [f.1] }
      (earlier.map Prod.snd ++ later.map fun _ => none)
      (later.filterMap fun f => f.2.map (some f.1, ·)) =
        some ((earlier ++ later).map Prod.snd) := by
  induction later generalizing earlier with
  | nil => simp [fill]
  | cons f later ih =>
    obtain ⟨name, value⟩ := f
    have others := ih (earlier ++ [(name, value)]) (by simpa using distinct)
    cases value with
    | none => simpa using others
    | some value =>
      have new : ∀ f ∈ earlier, f.1 ≠ name := by
        rw [List.map_append, List.nodup_append] at distinct
        exact fun f mem => distinct.2.2 f.1 (List.mem_map_of_mem mem) name List.mem_cons_self
      have found :
          ((earlier ++ (name, some value) :: later).map fun f => [f.1]).findIdx? (·.contains name) =
          some earlier.length := by
        have passed : (earlier.map fun f => [f.1]).findIdx? (·.contains name) = none := by
          rw [List.findIdx?_eq_none_iff, List.forall_mem_map]
          simpa [eq_comm] using new
        rw [List.map_append, List.findIdx?_append, passed, List.map_cons, List.findIdx?_cons]
        simp
      simp only [List.filterMap_cons, Option.map_some, fill, found]
      simpa using others

end Datum

/-! ## Objects -/

namespace Json

theorem itemsToData_eq (items : List Json) : itemsToData items = items.map toDatum := by
  induction items with
  | nil => rfl
  | cons v items ih => rw [itemsToData, ih, List.map_cons]

theorem membersToData_eq (members : List (Option String × Json)) :
    membersToData members = members.map fun m => (m.1, m.2.toDatum) := by
  induction members with
  | nil => rfl
  | cons m members ih => rw [membersToData, ih, List.map_cons]

theorem areSound_iff {depth : Nat} {items : List Json} :
    areSound depth items ↔ ∀ v ∈ items, v.isSound depth := by
  induction items with
  | nil => simp [areSound]
  | cons v items ih => simp [areSound, ih]

theorem membersSound_iff {depth : Nat} {members : List (Option String × Json)} :
    membersSound depth members ↔ ∀ m ∈ members, m.1.isSome ∧ m.2.isSound depth := by
  induction members with
  | nil => simp [membersSound]
  | cons m members ih => simp [membersSound, ih]

/-- The value is an object that holds these members and no others, in any order. -/
def Holds (v : Json) (fields : List (String × Json)) : Prop :=
  ∃ members, v = .object members ∧ members.Perm (fields.map fun f => (some f.1, f.2))

variable {v : Json} {fields : List (String × Json)}

theorem Holds.isSound (holds : v.Holds fields) {depth : Nat}
    (sound : ∀ f ∈ fields, f.2.isSound depth) :
    v.isSound (depth + 1) := by
  obtain ⟨members, rfl, order⟩ := holds
  rw [Json.isSound, membersSound_iff]
  intro m mem
  obtain ⟨f, field, rfl⟩ := List.mem_map.mp (order.mem_iff.mp mem)
  exact ⟨rfl, sound f field⟩

/-- The record in an object is that of its members as they are listed. -/
theorem Holds.record? (holds : v.Holds fields) (shape : RecordShape) :
    v.toDatum.record? shape =
      Datum.fill shape (shape.fields.map fun _ => none)
        (fields.map fun f => (some f.1, f.2.toDatum)) := by
  obtain ⟨members, rfl, order⟩ := holds
  rw [toDatum, Datum.record?, membersToData_eq]
  apply Datum.fill_perm
  have data := order.map fun m => (m.1, m.2.toDatum)
  rwa [List.map_map] at data

/-- No member of the object has this name. -/
def Lacks (v : Json) (name : String) : Prop :=
  ∃ members, v = .object members ∧ ∀ m ∈ members, m.1 ≠ some name

theorem Holds.lacks (holds : v.Holds fields) {name : String} (absent : ∀ f ∈ fields, f.1 ≠ name) :
    v.Lacks name := by
  obtain ⟨members, rfl, order⟩ := holds
  refine ⟨members, rfl, ?_⟩
  intro m mem named
  obtain ⟨f, field, rfl⟩ := List.mem_map.mp (order.mem_iff.mp mem)
  exact absent f field (Option.some.inj named)

/-- A field that an object does not name has nothing in the record. -/
theorem Lacks.getElem?_record? {shape : RecordShape} {name : String} {i : Nat}
    {slots : List (Option Datum)} (lacks : v.Lacks name) (field : shape.fields[i]? = some [name])
    (read : v.toDatum.record? shape = some slots) :
    slots.length = shape.fields.length ∧ slots[i]? = some none := by
  obtain ⟨members, rfl, absent⟩ := lacks
  rw [toDatum, Datum.record?, membersToData_eq] at read
  have kept := Datum.getElem?_fill (i := i) read ?_
  · rwa [List.length_map, List.getElem?_map, field] at kept
  · intro member mem key spelled found
    obtain ⟨m, here, rfl⟩ := List.mem_map.mp mem
    obtain ⟨inside, named, -⟩ := List.findIdx?_eq_some_iff_getElem.mp found
    rw [List.getElem?_eq_getElem inside, Option.some_inj] at field
    rw [field, List.contains_iff_mem, List.mem_singleton] at named
    exact absent m here (named ▸ spelled)

/-- An object with the fields that are set. -/
def ofFields (fields : List (String × Option Json)) : Json :=
  .object (fields.filterMap fun f => f.2.map (some f.1, ·))

/-- A record comes back from an object that has its fields, with nothing where a field is unset. -/
theorem record?_ofFields (fields : List (String × Option Json))
    (distinct : (fields.map Prod.fst).Nodup) :
    (ofFields fields).toDatum.record? { fields := fields.map fun f => [f.1] } =
      some (fields.map fun f => f.2.map toDatum) := by
  have filled := Datum.fill_fields [] (fields.map fun f => (f.1, f.2.map toDatum)) (by
    simpa [Function.comp_def] using distinct)
  rw [ofFields, toDatum, membersToData_eq, Datum.record?]
  simpa [List.filterMap_map, List.map_filterMap, Function.comp_def] using filled

/-! ## Arrays -/

theorem isSound_array {α : Type} {depth : Nat} (values : List α) {items : List Json}
    (each : List.Forall₂ (fun _ v => v.isSound depth) values items) :
    (Json.array items).isSound (depth + 1) := by
  rw [isSound, areSound_iff]
  induction each with
  | nil => simp
  | cons first _ ih => exact List.forall_mem_cons.mpr ⟨first, ih⟩

theorem listOf?_array {α : Type} {read : Datum → Option α} {values : List α} {items : List Json}
    (each : List.Forall₂ (fun value v => read (toDatum v) = some value) values items) :
    (Json.array items).toDatum.listOf? read = some values := by
  rw [toDatum, itemsToData_eq, Datum.listOf?, mapM_eq_some_iff, List.forall₂_map_left_iff]
  exact each.flip

/-- A list comes back from an array when each item comes back. -/
theorem listOf?_array_map {α : Type} {read : Datum → Option α} {write : α → Json}
    (back : ∀ value, read (write value).toDatum = some value) (values : List α) :
    (Json.array (values.map write)).toDatum.listOf? read = some values := by
  apply listOf?_array
  rw [List.forall₂_map_right_iff]
  exact List.forall₂_same.mpr fun value _ => back value

/-- One item that is not read is enough for an array not to be read. -/
theorem listOf?_array_eq_none {α : Type} {read : Datum → Option α} {items : List Json} {v : Json}
    (mem : v ∈ items) (unread : read v.toDatum = none) :
    (Json.array items).toDatum.listOf? read = none := by
  rw [toDatum, itemsToData_eq, Datum.listOf?]
  exact mapM_eq_none_of_mem (List.mem_map_of_mem mem) unread

end Json

end Highlight
