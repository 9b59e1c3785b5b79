import Mathlib.Data.List.Basic
import Mathlib.Data.List.Nodup
import MessageContracts.Toml.Written

/-!
# The tables of a written document

The statements of a written document fill tables: a row of assignments fills the table that its
header opens, and each header of an array adds a table to the array. A record is read from such a
table field by field, in whatever order the table is visited.
-/

namespace MessageContracts.Toml

/-- A row of assignments. -/
abbrev Row := List (String × Assigned)

namespace Row

/-- The assignments as they are written. -/
def written (row : Row) : List Entry := row.map fun (key, value) => .assign key value

/-- The assignments as statements about the table at hand. -/
def assignments (row : Row) : List (List String × Value) :=
  row.map fun (key, value) => ([key], value.value)

/-- The entries that the assignments fill a table with. -/
def items (row : Row) : Entries := row.map fun (key, value) => (key, .value value.value)

/-- The values that are assigned. -/
def values (row : Row) : List (String × Value) := row.map fun (key, value) => (key, value.value)

/-- The keys of the items are those of the assignments. -/
theorem map_fst_items (row : Row) : row.items.map (·.1) = row.map (·.1) := List.map_map

/-- The keys of the values are those of the assignments. -/
theorem map_fst_values (row : Row) : row.values.map (·.1) = row.map (·.1) := List.map_map

end Row

section Closing

/-- A table is closed entry by entry. -/
theorem closeEntries_eq_map (entries : Entries) :
    closeEntries entries = entries.map fun (key, item) => (key, item.close) := by
  induction entries with
  | nil => rfl
  | cons entry entries ih => rw [closeEntries, ih, List.map_cons]

/-- An array of tables is closed table by table. -/
theorem closeTables_eq_map (tables : List Entries) :
    closeTables tables = tables.map fun entries => .table (closeEntries entries) := by
  induction tables with
  | nil => rfl
  | cons entries tables ih => rw [closeTables, ih, List.map_cons]

/-- Entries that stand one after the other are closed one after the other. -/
theorem closeEntries_append (entries others : Entries) :
    closeEntries (entries ++ others) = closeEntries entries ++ closeEntries others := by
  simp only [closeEntries_eq_map, List.map_append]

/-- A row of assignments leaves the values that are assigned. -/
theorem closeEntries_items (row : Row) : closeEntries row.items = row.values := by
  rw [closeEntries_eq_map, Row.items, Row.values, List.map_map]
  rfl

end Closing

namespace Entries

/-- A key that is not among those of a table has no entry in it. -/
theorem lookup_eq_none {entries : Entries} {key : String} (fresh : key ∉ entries.map (·.1)) :
    entries.lookup key = none := by
  rw [List.lookup_eq_none_iff]
  intro entry listed
  exact bne_iff_ne.mpr fun same => fresh (List.mem_map.mpr ⟨entry, listed, same.symm⟩)

/-- A new key is set at the end of a table. -/
theorem set_of_lookup_eq_none {entries : Entries} {key : String}
    (fresh : entries.lookup key = none) (item : Item) :
    entries.set key item = entries ++ [(key, item)] := by
  rw [set, fresh, Option.isSome_none, if_neg Bool.false_ne_true]

/-- A row of assignments with new keys goes to the end of a table. -/
theorem assignAll_assignments {row : Row} {entries : Entries}
    (distinct : (entries.map (·.1) ++ row.map (·.1)).Nodup) :
    assignAll row.assignments entries = some (entries ++ row.items) := by
  induction row generalizing entries with
  | nil => rw [Row.items, List.map_nil, List.append_nil]; rfl
  | cons first row ih =>
    obtain ⟨key, value⟩ := first
    rw [List.map_cons] at distinct
    have fresh : entries.lookup key = none := lookup_eq_none fun twice =>
      List.disjoint_of_nodup_append distinct twice List.mem_cons_self
    have later : ((entries ++ [(key, Item.value value.value)]).map (·.1) ++
        row.map (·.1)).Nodup := by
      rwa [List.map_append, List.append_assoc]
    have assigned : assign none [key] value.value entries =
        some (entries ++ [(key, .value value.value)]) := by
      rw [assign, fresh, if_pos (by simp), set_of_lookup_eq_none fresh]
    have rest := ih later
    rw [List.append_assoc] at rest
    rw [Row.assignments, List.map_cons, assignAll, assigned]
    exact rest

/-- A row of assignments with distinct keys fills a table. -/
theorem assignAll_assignments_nil {row : Row} (distinct : (row.map (·.1)).Nodup) :
    assignAll row.assignments [] = some row.items :=
  assignAll_assignments distinct

/-- The assignments of a row reach up to the next header. -/
theorem takeAssignments_written (row : Row) {later : List Entry}
    (header : ∀ entry ∈ later.head?, entry.isHeader = true) :
    takeAssignments ((row.written ++ later).map Entry.statement) =
      (row.assignments, later.map Entry.statement) := by
  induction row with
  | nil =>
    rw [Row.written, List.map_nil, List.nil_append]
    match later with
    | [] | .table _ :: _ | .element _ :: _ => rfl
    | .assign _ _ :: _ => exact absurd (header _ rfl) Bool.false_ne_true
  | cons first row ih =>
    rw [Row.written, List.map_cons, List.cons_append, List.map_cons, Entry.statement,
      takeAssignments]
    rw [Row.written] at ih
    rw [ih]
    rfl

/-- A header opens a table, which the row behind it fills. -/
theorem addSections_table {key : String} (row : Row) (later : List Entry) (entries : Entries)
    (fresh : key ∉ entries.map (·.1)) (distinct : (row.map (·.1)).Nodup)
    (header : ∀ entry ∈ later.head?, entry.isHeader = true) :
    addSections entries ((.table [key] :: (row.written ++ later)).map Entry.statement) =
      addSections (entries ++ [(key, .table .header row.items)]) (later.map Entry.statement) := by
  have filled := assignAll_assignments_nil distinct
  have unset := lookup_eq_none fresh
  have opened : openTable key row.assignments entries =
      some (entries ++ [(key, .table .header row.items)]) := by
    rw [openTable, unset]
    simp only [filled, Option.map_some, set_of_lookup_eq_none unset]
  rw [List.map_cons, Entry.statement, addSections, takeAssignments_written row header]
  simp only [List.getLast?_singleton, List.dropLast_singleton, update, opened]
  rfl

/-- An array of tables as an entry, which is not there while the array is empty. -/
def ofTables (key : String) : List Entries → Entries
  | [] => []
  | latest :: earlier => [(key, .tables (latest :: earlier))]

/-- An array of tables is closed with its tables in the order of their headers. -/
theorem closeEntries_ofTables (key : String) {tables : List Entries} (filled : tables ≠ []) :
    closeEntries (ofTables key tables) =
      [(key, .array (tables.reverse.map fun entries => .table (closeEntries entries)))] := by
  cases tables with
  | nil => exact absurd rfl filled
  | cons latest earlier =>
    rw [ofTables, closeEntries, closeEntries, Item.close, closeTables_eq_map, List.map_reverse]

/-- A table is added to an array at the end of a table. -/
theorem addElement_ofTables {key : String} {row : Row} {base : Entries} (earlier : List Entries)
    (fresh : key ∉ base.map (·.1)) (distinct : (row.map (·.1)).Nodup) :
    addElement key row.assignments (base ++ ofTables key earlier) =
      some (base ++ ofTables key (row.items :: earlier)) := by
  have filled := assignAll_assignments_nil distinct
  have unset := lookup_eq_none fresh
  cases earlier with
  | nil =>
    rw [ofTables, List.append_nil, addElement, unset]
    simp only [filled, Option.map_some, set_of_lookup_eq_none unset, ofTables]
  | cons latest earlier =>
    have found : (base ++ ofTables key (latest :: earlier)).lookup key =
        some (.tables (latest :: earlier)) := by
      rw [List.lookup_append, unset]
      simp [ofTables]
    have others : base.map (fun entry =>
        if entry.1 == key then (key, Item.tables (row.items :: latest :: earlier)) else entry) =
        base := by
      conv_rhs => rw [← List.map_id base]
      refine List.map_congr_left fun entry listed => if_neg ?_
      exact fun same => fresh (List.mem_map.mpr ⟨entry, listed, beq_iff_eq.mp same⟩)
    rw [addElement, found]
    simp only [filled, Option.map_some, set, found, Option.isSome_some, if_true,
      List.map_append, others]
    simp [ofTables]

/-- The tables that headers add to an array in a table. -/
theorem addSections_elements (outer : String) {inner : String} (rows : List Row)
    {later : List Entry} {base : Entries} (earlier : List Entries) (fresh : inner ∉ base.map (·.1))
    (distinct : ∀ row ∈ rows, (row.map (·.1)).Nodup)
    (header : ∀ entry ∈ later.head?, entry.isHeader = true) :
    addSections [(outer, .table .header (base ++ ofTables inner earlier))]
        ((rows.flatMap (fun row => .element [outer, inner] :: row.written) ++ later).map
          Entry.statement) =
      addSections [(outer, .table .header
          (base ++ ofTables inner ((rows.map Row.items).reverse ++ earlier)))]
        (later.map Entry.statement) := by
  induction rows generalizing earlier with
  | nil => rfl
  | cons row rows ih =>
    obtain ⟨here, others⟩ := List.forall_mem_cons.mp distinct
    let behind := rows.flatMap (fun row => .element [outer, inner] :: row.written) ++ later
    have next_header : ∀ entry ∈ behind.head?, entry.isHeader = true := by
      cases rows with
      | nil => exact header
      | cons row rows =>
        intro entry first
        cases first
        rfl
    have added := addElement_ofTables earlier fresh here
    rw [List.flatMap_cons, List.append_assoc, List.cons_append, List.map_cons, Entry.statement,
      addSections, takeAssignments_written row next_header]
    simp only [List.getLast?_cons_cons, List.getLast?_singleton, List.dropLast_cons_cons,
      List.dropLast_singleton, update, List.lookup_cons_self, added, Option.map_some]
    have once : set [(outer, .table .header (base ++ ofTables inner earlier))] outer
        (.table .header (base ++ ofTables inner (row.items :: earlier))) =
        [(outer, .table .header (base ++ ofTables inner (row.items :: earlier)))] := by
      simp [set]
    have rest := ih (row.items :: earlier) others
    rw [List.map_cons, List.reverse_cons, List.append_assoc]
    rw [once]
    exact rest

end Entries

end MessageContracts.Toml
