import MessageContracts.Decimal.Binary64

/-!
# Documents as far as they can be read

A node is a value of a structured document. A document that stops being well formed somewhere still
has a tree: the node at that place is broken, and the lists and records around it are cut short.
Readers visit a tree in document order, so the first fault that they meet is the first one in the
document, whatever follows it.
-/

namespace MessageContracts

/-- A value of a document. -/
inductive Node where
  /-- No value. -/
  | null
  /-- A truth value. -/
  | boolean (value : Bool)
  /-- An integer. -/
  | integer (value : Int)
  /-- A number that is not an integer. -/
  | real (value : Binary64)
  /-- A text. -/
  | text (value : String)
  /-- A date, a time or both. -/
  | moment
  /-- A well-formed scalar that has no value: text that is no Unicode, a number out of range. -/
  | unreadable
  /-- A list, complete unless the document breaks off in it. -/
  | list (items : List Node) (complete : Bool)
  /-- A record in document order, complete unless the document breaks off in it. A key without a
  value of its own is absent. -/
  | record (members : List (Option String × Node)) (complete : Bool)
  /-- The place where the document stops being well formed. -/
  | broken

namespace Node

mutual

/-- Whether nothing in the node is broken or cut short. -/
def isWellFormed : Node → Bool
  | list items complete => complete && allWellFormed items
  | record members complete => complete && membersWellFormed members
  | broken => false
  | null | boolean _ | integer _ | real _ | text _ | moment | unreadable => true

/-- Whether nothing in the nodes is broken or cut short. -/
def allWellFormed : List Node → Bool
  | [] => true
  | item :: rest => item.isWellFormed && allWellFormed rest

/-- Whether nothing in the members is broken or cut short. -/
def membersWellFormed : List (Option String × Node) → Bool
  | [] => true
  | (_, value) :: rest => value.isWellFormed && membersWellFormed rest

end

end Node

end MessageContracts
