import MessageContracts.Document.Fault
import MessageContracts.Template

/-!
# Reading values from documents

A record has named fields in a fixed order. A document may give it as a record, with its keys in
any order, unknown keys skipped and no key twice, or as a list of the fields in their order, which
may end early where the remaining fields may be absent. Absent fields keep their blank value.
-/

namespace MessageContracts

/-- Reading a value of a document. -/
abbrev Reader (α : Type) := Node → Except DocumentFault α

/-- A field of a record. -/
structure Field (α : Type) where
  /-- The key. -/
  name : String
  /-- Whether the field has to be given. -/
  required : Bool
  /-- Read the field into the record. -/
  read : Node → α → Except DocumentFault α

/-- The shape of a record. -/
structure Shape (α : Type) where
  /-- What a record of this shape is called. -/
  title : String
  /-- The fields in order. -/
  fields : List (Field α)
  /-- The record with every field absent. -/
  blank : α

/-- How a format treats items of a list after the last field of a record. -/
inductive Surplus where
  /-- They make the document malformed. -/
  | refused
  /-- They are skipped. -/
  | skipped
deriving DecidableEq, Repr

namespace Reader

/-- Read a text. -/
def text : Reader String
  | .text value => .ok value
  | node => .error (node.unexpected "a string")

/-- Read a text that may be absent. -/
def optionalText : Reader (Option String)
  | .null => .ok none
  | node => some <$> text node

/-- Read a template. -/
def template {arity : Nat} : Reader (Template arity) := fun node => do
  (Template.parse (← text node)).mapError .template

/-- Read each node of a list in order. -/
def each {α : Type} (read : Reader α) : List Node → Except DocumentFault (List α)
  | [] => .ok []
  | node :: rest => return (← read node) :: (← each read rest)

/-- Read a list of values. -/
def list {α : Type} (read : Reader α) : Reader (List α)
  | .list items complete => do
    let values ← each read items
    if complete then .ok values else .error .malformed
  | node => .error (node.unexpected "a sequence")

end Reader

/-- A field that is read on its own and then set. -/
def Field.of {α β : Type} (name : String) (required : Bool) (read : Reader β)
    (set : α → β → α) : Field α where
  name := name
  required := required
  read node record := return set record (← read node)

namespace Shape

variable {α : Type}

/-- Read the members of a record; `seen` are the fields given so far. -/
def readMembers (shape : Shape α) :
    List (Option String × Node) → List String → α → Except DocumentFault (List String × α)
  | [], seen, record => .ok (seen, record)
  | (none, _) :: _, _, _ => .error .malformed
  | (some key, node) :: rest, seen, record =>
    match shape.fields.find? (·.name == key) with
    | none =>
      if node.isWellFormed then readMembers shape rest seen record else .error .malformed
    | some field =>
      if seen.contains key then .error (.duplicateField key)
      else do
        let record ← field.read node record
        readMembers shape rest (key :: seen) record

/-- Read the items of a list into the fields in order. The remaining fields are returned. -/
def readItems : List (Field α) → List Node → α →
    Except DocumentFault (List (Field α) × List Node × α)
  | field :: fields, node :: nodes, record => do readItems fields nodes (← field.read node record)
  | fields, nodes, record => .ok (fields, nodes, record)

/-- Read a record that the document gives as a record. -/
def readRecord (shape : Shape α) (members : List (Option String × Node)) (complete : Bool) :
    Except DocumentFault α := do
  let (seen, record) ← shape.readMembers members [] shape.blank
  if !complete then .error .malformed
  else match shape.fields.find? fun field => field.required && !seen.contains field.name with
    | some field => .error (.missingField field.name)
    | none => .ok record

/-- Read a record that the document gives as a list. -/
def readList (shape : Shape α) (surplus : Surplus) (items : List Node) (complete : Bool) :
    Except DocumentFault α := do
  let (absent, rest, record) ← readItems shape.fields items shape.blank
  if !complete || (!rest.isEmpty && surplus = .refused) then .error .malformed
  else match absent.findIdx? (·.required) with
    | some index =>
      .error (.tooShort (shape.fields.length - absent.length + index) shape.title
        shape.fields.length)
    | none => .ok record

/-- Read a record. -/
def read (shape : Shape α) (surplus : Surplus) : Reader α
  | .record members complete => shape.readRecord members complete
  | .list items complete => shape.readList surplus items complete
  | .moment => shape.readRecord [] true
  | node => .error (node.unexpected shape.title)

end Shape

end MessageContracts
