import Mathlib.Data.List.Basic
import Mathlib.Data.List.Nodup
import MessageContracts.Toml.Value

/-!
# Records in tables

A table is visited with its keys in ascending order, whatever order it was filled in. What a record
is read as does not depend on it: each key sets its own field, and the fields that no key gives keep
their blank value. A property of the blank record that every field keeps holds of each record that
is read.
-/

namespace MessageContracts.Toml

section Nodes

/-- The items of an array are nodes one by one. -/
theorem Value.itemNodes_eq_map (items : List Value) : itemNodes items = items.map node := by
  induction items with
  | nil => rfl
  | cons item items ih => rw [itemNodes, ih, List.map_cons]

/-- The entries of a table are members one by one. -/
theorem Value.entryNodes_eq_map (entries : List (String × Value)) :
    entryNodes entries = entries.map fun (key, value) => (some key, value.node) := by
  induction entries with
  | nil => rfl
  | cons entry entries ih => rw [entryNodes, ih, List.map_cons]

/-- The members of a table are its entries in some order. -/
theorem Value.sortMembers_perm (entries : List (String × Value)) :
    (sortMembers (entryNodes entries)).Perm
      (entries.map fun (key, value) => (some key, value.node)) := by
  rw [sortMembers, entryNodes_eq_map]
  exact List.mergeSort_perm _ _

end Nodes

section Lists

variable {β : Type} {reader : Reader β} {write : β → Value} {contents : List β}

/-- Nodes that are read one by one. -/
theorem each_of_reads (reads : ∀ content ∈ contents, reader (write content).node = .ok content) :
    Reader.each reader (contents.map fun content => (write content).node) = .ok contents := by
  induction contents with
  | nil => rfl
  | cons content contents ih =>
    obtain ⟨here, others⟩ := List.forall_mem_cons.mp reads
    rw [List.map_cons, Reader.each, here, ih others]
    rfl

/-- A list is read from an array when its values are read from the items. -/
theorem list_of_reads (reads : ∀ content ∈ contents, reader (write content).node = .ok content) :
    Reader.list reader (Value.array (contents.map write)).node = .ok contents := by
  have items : (contents.map write).map Value.node =
      contents.map fun content => (write content).node := List.map_map
  rw [Value.node, Value.itemNodes_eq_map, items, Reader.list, each_of_reads reads]
  rfl

end Lists

section Giving

variable {α : Type} {shape : Shape α} {part : List String → α}

/-- Whether a value gives the field of a key, when `part` is the part of a record of which just
these fields have been given. -/
def Gives (shape : Shape α) (part : List String → α) (key : String) (value : Value) : Prop :=
  ∃ field, shape.fields.find? (·.name == key) = some field ∧
    ∀ given, field.read value.node (part given) = .ok (part (key :: given))

/-- A field that is read on its own and then set is given when setting it gives it. -/
theorem Gives.of {β : Type} {key : String} {required : Bool} {reader : Reader β}
    {set : α → β → α} {value : Value} {content : β}
    (found : shape.fields.find? (·.name == key) = some (.of key required reader set))
    (reads : reader value.node = .ok content)
    (sets : ∀ given, set (part given) content = part (key :: given)) :
    Gives shape part key value := by
  refine ⟨_, found, fun given => ?_⟩
  rw [← sets given, Field.of]
  simp only [reads]
  rfl

/-- Members that give distinct fields are read one by one. -/
theorem readMembers_of_gives {members : List (Option String × Node)}
    (each : ∀ member ∈ members, ∃ key value, member = (some key, Value.node value) ∧
      Gives shape part key value)
    (seen : List String) (once : (members.filterMap (·.1) ++ seen).Nodup) :
    let given := (members.filterMap (·.1)).reverse ++ seen
    shape.readMembers members seen (part seen) = .ok (given, part given) := by
  induction members generalizing seen with
  | nil => rfl
  | cons member members ih =>
    obtain ⟨⟨key, value, rfl, field, found, reads⟩, others⟩ := List.forall_mem_cons.mp each
    have keys : ((some key, value.node) :: members).filterMap (·.1) =
        key :: members.filterMap (·.1) := rfl
    rw [keys, List.cons_append] at once
    have fresh : seen.contains key = false := by
      rw [← Bool.not_eq_true, List.contains_iff_mem]
      exact fun twice => (List.nodup_cons.mp once).1 (List.mem_append_right _ twice)
    have later := ih others (key :: seen) (List.perm_middle.nodup_iff.mpr once)
    rw [keys, List.reverse_cons, List.append_assoc, Shape.readMembers, found]
    simp only [fresh, Bool.false_eq_true, if_false, reads]
    exact later

/-- A record is read from a table that gives distinct fields of it, and every required one. -/
theorem read_table (shape : Shape α) (surplus : Surplus) (part : List String → α)
    (entries : List (String × Value)) (blank : part [] = shape.blank)
    (same : ∀ given others : List String, (∀ key, key ∈ given ↔ key ∈ others) →
      part given = part others)
    (each : ∀ entry ∈ entries, Gives shape part entry.1 entry.2)
    (once : (entries.map (·.1)).Nodup)
    (required : ∀ field ∈ shape.fields, field.required = true →
      field.name ∈ entries.map (·.1)) :
    shape.read surplus (Value.table entries).node = .ok (part (entries.map (·.1))) := by
  have order := Value.sortMembers_perm entries
  have keys : ((Value.sortMembers (Value.entryNodes entries)).filterMap (·.1)).Perm
      (entries.map (·.1)) := by
    have row := order.filterMap (·.1)
    rw [List.filterMap_map] at row
    exact row.trans (.of_eq (congrFun (List.filterMap_eq_map (f := (·.1))) entries))
  generalize members_eq : Value.sortMembers (Value.entryNodes entries) = members at order keys
  have given_each : ∀ member ∈ members, ∃ key value, member = (some key, Value.node value) ∧
      Gives shape part key value := fun member listed => by
    obtain ⟨entry, here, rfl⟩ := List.mem_map.mp (order.mem_iff.mp listed)
    exact ⟨entry.1, entry.2, rfl, each entry here⟩
  have row := readMembers_of_gives given_each [] (by
    rw [List.append_nil]
    exact keys.nodup_iff.mpr once)
  have listed : ∀ key, key ∈ (members.filterMap (·.1)).reverse ↔ key ∈ entries.map (·.1) :=
    fun key => List.mem_reverse.trans keys.mem_iff
  have complete : shape.fields.find? (fun field => field.required &&
      !(members.filterMap (·.1)).reverse.contains field.name) = none := by
    rw [List.find?_eq_none]
    intro field here missing
    obtain ⟨needed, absent⟩ := Bool.and_eq_true_iff.mp missing
    rw [Bool.not_eq_true', ← Bool.not_eq_true, List.contains_iff_mem, listed] at absent
    exact absent (required field here needed)
  simp only [List.append_nil, blank] at row
  rw [Value.node, members_eq, Shape.read, Shape.readRecord, row, ← same _ _ listed]
  simp only [bind, Except.bind, Bool.not_true, Bool.false_eq_true, if_false, complete]

end Giving

section Keeping

variable {α : Type} {shape : Shape α} {p : α → Prop}

/-- Whether reading a value into a field keeps a property of the record. -/
def Keeps (p : α → Prop) (field : Field α) : Prop :=
  ∀ (value : Value) (record changed : α),
    p record → field.read value.node record = .ok changed → p changed

/-- A result in two steps is a result of the second step from one of the first. -/
theorem exists_of_bind_eq_ok {ε β γ : Type} {first : Except ε β} {second : β → Except ε γ} {c : γ}
    (result : first >>= second = .ok c) : ∃ b, first = .ok b ∧ second b = .ok c := by
  cases first with
  | error fault => cases result
  | ok b => exact ⟨b, rfl, result⟩

/-- A field that is read on its own and then set keeps what setting it keeps. -/
theorem Keeps.of {β : Type} {name : String} {required : Bool} {reader : Reader β}
    {set : α → β → α}
    (sets : ∀ (value : Value) (content : β), reader value.node = .ok content →
      ∀ record, p record → p (set record content)) :
    Keeps p (.of name required reader set) := by
  intro value record changed holds read
  obtain ⟨content, result, same⟩ := exists_of_bind_eq_ok read
  cases same
  exact sets value content result record holds

/-- The members of a table keep what the fields keep. -/
theorem keeps_readMembers (fields : ∀ field ∈ shape.fields, Keeps p field)
    {members : List (Option String × Node)}
    (values : ∀ member ∈ members, ∃ value, member.2 = Value.node value)
    {seen : List String} {record : α} (holds : p record) {result : List String × α}
    (read : shape.readMembers members seen record = .ok result) : p result.2 := by
  induction members generalizing seen record with
  | nil =>
    cases read
    exact holds
  | cons member members ih =>
    obtain ⟨⟨value, here⟩, others⟩ := List.forall_mem_cons.mp values
    obtain ⟨key, node⟩ := member
    obtain rfl : node = value.node := here
    cases key with
    | none => cases read
    | some key =>
      rw [Shape.readMembers] at read
      split at read
      · -- The record does not know the key.
        split at read
        · exact ih others holds read
        · cases read
      next field found =>
        split at read
        · cases read
        · obtain ⟨next, changed, later⟩ := exists_of_bind_eq_ok read
          have known := fields field (List.mem_of_find?_eq_some found)
          exact ih others (known value record next holds changed) later

/-- The items of an array keep what the fields keep. -/
theorem keeps_readItems {fields : List (Field α)} (each : ∀ field ∈ fields, Keeps p field)
    {items : List Value} {record : α} (holds : p record)
    {result : List (Field α) × List Node × α}
    (read : Shape.readItems fields (items.map Value.node) record = .ok result) :
    p result.2.2 := by
  induction fields generalizing items record with
  | nil =>
    rw [Shape.readItems.eq_2 _ _ _ (by simp)] at read
    cases read
    exact holds
  | cons field fields ih =>
    obtain ⟨here, others⟩ := List.forall_mem_cons.mp each
    cases items with
    | nil =>
      cases read
      exact holds
    | cons item items =>
      obtain ⟨next, changed, later⟩ := exists_of_bind_eq_ok read
      exact ih others (here item record next holds changed) later

/-- A record that is given as a record keeps what the fields keep. -/
theorem keeps_readRecord (blank : p shape.blank) (fields : ∀ field ∈ shape.fields, Keeps p field)
    {members : List (Option String × Node)} {complete : Bool}
    (values : ∀ member ∈ members, ∃ value, member.2 = Value.node value) {record : α}
    (read : shape.readRecord members complete = .ok record) : p record := by
  obtain ⟨⟨seen, last⟩, result, rest⟩ := exists_of_bind_eq_ok read
  have kept : p last := keeps_readMembers fields values blank result
  dsimp only at rest
  split at rest
  · cases rest
  · split at rest <;> cases rest
    exact kept

/-- A record that is given as a list keeps what the fields keep. -/
theorem keeps_readList (blank : p shape.blank) (fields : ∀ field ∈ shape.fields, Keeps p field)
    {surplus : Surplus} {items : List Value} {complete : Bool} {record : α}
    (read : shape.readList surplus (items.map Value.node) complete = .ok record) : p record := by
  obtain ⟨⟨absent, surplus_items, last⟩, result, rest⟩ := exists_of_bind_eq_ok read
  have kept : p last := keeps_readItems fields blank result
  dsimp only at rest
  split at rest
  · cases rest
  · split at rest <;> cases rest
    exact kept

/-- A record that is read from a value has each property of the blank record that the fields
keep. -/
theorem keeps_read (blank : p shape.blank) (fields : ∀ field ∈ shape.fields, Keeps p field)
    {surplus : Surplus} {value : Value} {record : α}
    (read : shape.read surplus value.node = .ok record) : p record := by
  cases value with
  | table entries =>
    refine keeps_readRecord blank fields (fun member listed => ?_) read
    obtain ⟨entry, -, rfl⟩ := List.mem_map.mp
      ((Value.sortMembers_perm entries).mem_iff.mp listed)
    exact ⟨entry.2, rfl⟩
  | moment => exact keeps_readRecord blank fields (List.forall_mem_nil _) read
  | array items =>
    rw [Value.node, Value.itemNodes_eq_map] at read
    exact keeps_readList blank fields read
  | text | integer | real | overflow | boolean => cases read

end Keeping

end MessageContracts.Toml
