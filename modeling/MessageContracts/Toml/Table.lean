import MessageContracts.Toml.Value

/-!
# Building the tables of a TOML document

A document says piece by piece what its tables hold: by headers that open a table, by headers that
add a table to an array, and by assignments with dotted keys. No key is given twice, a table is
opened once, a table made by dotted keys is extended by dotted keys only, and a value written in
one place is complete.
-/

namespace MessageContracts.Toml

/-- What brought a table into being. -/
inductive Origin where
  /-- A header of its own. -/
  | header
  /-- A header of a table inside it. -/
  | implied
  /-- A dotted key. -/
  | dotted
deriving DecidableEq, Repr

/-- What a key stands for while its document is read. -/
inductive Item where
  /-- A complete value. -/
  | value (value : Value)
  /-- A table that may still grow. -/
  | table (origin : Origin) (entries : List (String × Item))
  /-- An array of tables, the latest first, that may still grow. -/
  | tables (latestFirst : List (List (String × Item)))

/-- The entries of a table that may still grow. -/
abbrev Entries := List (String × Item)

/-- A line of a document that is not blank. -/
inductive Statement where
  /-- A key path and its value. -/
  | assign (path : List String) (value : Value)
  /-- A header that opens a table. -/
  | table (path : List String)
  /-- A header that adds a table to an array. -/
  | element (path : List String)

namespace Entries

/-- The entries with the key set to the item, at the end if the key is new. -/
def set (entries : Entries) (key : String) (item : Item) : Entries :=
  if (entries.lookup key).isSome then
    entries.map fun entry => if entry.1 == key then (key, item) else entry
  else entries ++ [(key, item)]

/-- Assign a value to a key path. The table at hand has an origin unless the path starts in it:
only a table made by dotted keys may be filled from outside. -/
def assign : Option Origin → List String → Value → Entries → Option Entries
  | _, [], _, _ => none
  | origin, [key], value, entries =>
    if (origin = none ∨ origin = some .dotted) ∧ (entries.lookup key).isNone then
      some (entries.set key (.value value))
    else none
  | _, key :: path, value, entries =>
    match entries.lookup key with
    | none =>
      (assign (some .dotted) path value []).map fun inner =>
        entries.set key (.table .dotted inner)
    | some (.table .header _) => none
    | some (.table origin inner) =>
      (assign (some origin) path value inner).map fun inner =>
        entries.set key (.table origin inner)
    | some (.tables (latest :: earlier)) =>
      (assign (some .header) path value latest).map fun latest =>
        entries.set key (.tables (latest :: earlier))
    | some (.tables []) | some (.value _) => none

/-- Change the table at a path, which a header names; missing tables are implied. -/
def update (change : Entries → Option Entries) : List String → Entries → Option Entries
  | [], entries => change entries
  | key :: path, entries =>
    match entries.lookup key with
    | none => (update change path []).map fun inner => entries.set key (.table .implied inner)
    | some (.table origin inner) =>
      (update change path inner).map fun inner => entries.set key (.table origin inner)
    | some (.tables (latest :: earlier)) =>
      (update change path latest).map fun latest =>
        entries.set key (.tables (latest :: earlier))
    | some (.tables []) | some (.value _) => none

/-- Assign several values to key paths that start in the same table. -/
def assignAll : List (List String × Value) → Entries → Option Entries
  | [], entries => some entries
  | (path, value) :: rest, entries => do assignAll rest (← assign none path value entries)

/-- Open the table at a key and fill it. It may exist only by implication. -/
def openTable (key : String) (assignments : List (List String × Value)) (entries : Entries) :
    Option Entries :=
  let fill (inner : Entries) := (assignAll assignments inner).map fun inner =>
    entries.set key (.table .header inner)
  match entries.lookup key with
  | none => fill []
  | some (.table .implied inner) => fill inner
  | _ => none

/-- Add a table to the array at a key and fill it. -/
def addElement (key : String) (assignments : List (List String × Value)) (entries : Entries) :
    Option Entries :=
  let fill (earlier : List Entries) := (assignAll assignments []).map fun inner =>
    entries.set key (.tables (inner :: earlier))
  match entries.lookup key with
  | none => fill []
  | some (.tables earlier) => fill earlier
  | _ => none

/-- The assignments up to the next header, and the statements from there on. -/
def takeAssignments : List Statement → List (List String × Value) × List Statement
  | .assign path value :: rest =>
    let (assignments, rest) := takeAssignments rest
    ((path, value) :: assignments, rest)
  | rest => ([], rest)

/-- Nothing is added to the statements. -/
theorem length_takeAssignments (statements : List Statement) :
    (takeAssignments statements).2.length ≤ statements.length := by
  fun_induction takeAssignments statements with
  | case1 path value rest assignments tail h ih =>
    simp only [h] at ih
    simp only [List.length_cons]
    omega
  | case2 rest h => exact Nat.le_refl _

/-- Perform statements that start with a header. -/
def addSections (entries : Entries) (statements : List Statement) : Option Entries :=
  match statements with
  | [] => some entries
  | .assign _ _ :: _ => none
  | .table path :: rest =>
    let body := takeAssignments rest
    match path.getLast? with
    | none => none
    | some key => do
      addSections (← update (openTable key body.1) path.dropLast entries) body.2
  | .element path :: rest =>
    let body := takeAssignments rest
    match path.getLast? with
    | none => none
    | some key => do
      addSections (← update (addElement key body.1) path.dropLast entries) body.2
termination_by statements.length
decreasing_by
  · have := length_takeAssignments rest
    simp only [List.length_cons]
    omega
  · have := length_takeAssignments rest
    simp only [List.length_cons]
    omega

/-- The entries that the statements of a document describe. -/
def ofStatements (statements : List Statement) : Option Entries := do
  let (assignments, sections) := takeAssignments statements
  addSections (← assignAll assignments []) sections

end Entries

mutual

/-- The value of an item once its document has been read. -/
def Item.close : Item → Value
  | .value value => value
  | .table _ entries => .table (closeEntries entries)
  | .tables latestFirst => .array (closeTables latestFirst).reverse

/-- The entries of a table once its document has been read. -/
def closeEntries : List (String × Item) → List (String × Value)
  | [] => []
  | (key, item) :: rest => (key, item.close) :: closeEntries rest

/-- The tables of an array once their document has been read. -/
def closeTables : List (List (String × Item)) → List Value
  | [] => []
  | entries :: rest => .table (closeEntries entries) :: closeTables rest

end

end MessageContracts.Toml
