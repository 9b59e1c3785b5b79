/-!
# The contract model

A model lists messages, which become classes, and entities, whose messages become interfaces. The
order of every list is the order of emission.
-/

namespace MessageContracts

/-- A field of a message. -/
structure Member where
  /-- The type reference, emitted as it stands. -/
  type : String
  /-- The raw identifier, spelt by a spelling style. -/
  name : String
deriving DecidableEq, Repr

/-- A tag attached to a message. -/
structure Modifier where
  /-- The tag, which selects the entity interfaces that the message joins. -/
  identifier : String
  /-- The interface that the message's own class implements. -/
  interface : String
deriving DecidableEq, Repr

/-- A message: a value type with fields and tags. -/
structure Message where
  /-- The name of the class. -/
  name : String
  /-- The fields. -/
  members : List Member
  /-- The tags. -/
  modifiers : List Modifier
deriving DecidableEq, Repr

/-- A group of messages that becomes interfaces. -/
structure Entity where
  /-- The name, absent when the group has none. -/
  name : Option String
  /-- The messages of the group. -/
  messages : List Message
deriving DecidableEq, Repr

/-- Everything that one generation pass emits. -/
structure Model where
  /-- The messages that become classes. -/
  contracts : List Message
  /-- The groups that become interfaces. -/
  entities : List Entity
deriving DecidableEq, Repr

/-- Whether some tag of the message is among `tags`. -/
def Message.carriesAny (message : Message) (tags : List String) : Bool :=
  message.modifiers.any fun modifier => tags.contains modifier.identifier

namespace Entity

/-- The name that a nameless entity may carry instead of none. -/
def nameless : String := "null"

/-- The name under which the entity is emitted; a nameless entity is skipped. -/
def properName (entity : Entity) : Option String :=
  entity.name.filter (· != nameless)

end Entity

namespace Model

/-- The model with nothing to emit. -/
def empty : Model := ⟨[], []⟩

/-- The model with one more contract at the end. -/
def addContract (model : Model) (contract : Message) : Model :=
  { model with contracts := model.contracts ++ [contract] }

/-- The model with one more entity at the end. -/
def addEntity (model : Model) (entity : Entity) : Model :=
  { model with entities := model.entities ++ [entity] }

end Model

end MessageContracts
