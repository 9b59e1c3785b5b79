import MessageContracts.Document.Shape

/-!
# Values of a TOML document

A document is a table. Its tables have no order of their own: they are visited with their keys in
ascending order.
-/

namespace MessageContracts.Toml

/-- A value of a TOML document. -/
inductive Value where
  /-- A text. -/
  | text (value : String)
  /-- An integer. -/
  | integer (value : Int)
  /-- A floating-point number. -/
  | real (value : Binary64)
  /-- A number that cannot be held. -/
  | overflow
  /-- A truth value. -/
  | boolean (value : Bool)
  /-- A date, a time or both. -/
  | moment
  /-- An array. -/
  | array (items : List Value)
  /-- A table. -/
  | table (entries : List (String × Value))
deriving Repr

namespace Value

/-- Members with their keys in ascending order. -/
def sortMembers (members : List (Option String × Node)) : List (Option String × Node) :=
  members.mergeSort fun a b => (a.1.getD "") ≤ (b.1.getD "")

mutual

/-- The value as a node of a document. A number that cannot be held breaks the document where it is
visited. -/
def node : Value → Node
  | text value => .text value
  | integer value => .integer value
  | real value => .real value
  | overflow => .broken
  | boolean value => .boolean value
  | moment => .moment
  | array items => .list (itemNodes items) true
  | table entries => .record (sortMembers (entryNodes entries)) true

/-- The items of an array as nodes. -/
def itemNodes : List Value → List Node
  | [] => []
  | item :: rest => item.node :: itemNodes rest

/-- The entries of a table as members. -/
def entryNodes : List (String × Value) → List (Option String × Node)
  | [] => []
  | (key, value) :: rest => (some key, value.node) :: entryNodes rest

end

mutual

/-- Whether all integers fit in 64 bits with a sign, and all other numbers can be held. -/
def isNarrow : Value → Bool
  | integer value => -Int.ofNat (twoTo 63) ≤ value && value < Int.ofNat (twoTo 63)
  | overflow => false
  | array items => itemsNarrow items
  | table entries => entriesNarrow entries
  | text _ | real _ | boolean _ | moment => true

/-- Whether this holds of all items of an array. -/
def itemsNarrow : List Value → Bool
  | [] => true
  | item :: rest => item.isNarrow && itemsNarrow rest

/-- Whether this holds of all entries of a table. -/
def entriesNarrow : List (String × Value) → Bool
  | [] => true
  | (_, value) :: rest => value.isNarrow && entriesNarrow rest

end

end Value

end MessageContracts.Toml
