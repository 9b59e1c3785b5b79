import MessageContracts.Json.Read
import MessageContracts.Json.Value
import MessageContracts.Model

/-!
# Models as documents

A model is exchanged as a JSON document. Lists and the name of an entity may be absent; all other
fields have to be given.
-/

namespace MessageContracts

/-- How surplus items of a list that stands for a record are treated in JSON. -/
abbrev Json.surplus : Surplus := .refused

namespace Member

/-- The document form of a member. -/
def shape : Shape Member where
  title := "struct Member"
  fields := [
    .of "type" true Reader.text fun member type => { member with type },
    .of "name" true Reader.text fun member name => { member with name }]
  blank := ⟨"", ""⟩

/-- The member as a JSON value. -/
def json (member : Member) : Json.Value :=
  .record [("type", .text member.type), ("name", .text member.name)]

end Member

namespace Modifier

/-- The document form of a tag. -/
def shape : Shape Modifier where
  title := "struct Modifier"
  fields := [
    .of "identifier" true Reader.text fun modifier identifier => { modifier with identifier },
    .of "interface" true Reader.text fun modifier interface => { modifier with interface }]
  blank := ⟨"", ""⟩

/-- The tag as a JSON value. -/
def json (modifier : Modifier) : Json.Value :=
  .record [("identifier", .text modifier.identifier), ("interface", .text modifier.interface)]

end Modifier

namespace Message

/-- The document form of a message. -/
def shape : Shape Message where
  title := "struct Message"
  fields := [
    .of "name" true Reader.text fun message name => { message with name },
    .of "members" false (Reader.list (Member.shape.read Json.surplus))
      fun message members => { message with members },
    .of "modifiers" false (Reader.list (Modifier.shape.read Json.surplus))
      fun message modifiers => { message with modifiers }]
  blank := ⟨"", [], []⟩

/-- The message as a JSON value. -/
def json (message : Message) : Json.Value :=
  .record [("name", .text message.name), ("members", .list (message.members.map Member.json)),
    ("modifiers", .list (message.modifiers.map Modifier.json))]

end Message

namespace Entity

/-- The document form of an entity. -/
def shape : Shape Entity where
  title := "struct Entity"
  fields := [
    .of "name" false Reader.optionalText fun entity name => { entity with name },
    .of "messages" false (Reader.list (Message.shape.read Json.surplus))
      fun entity messages => { entity with messages }]
  blank := ⟨none, []⟩

/-- The entity as a JSON value. -/
def json (entity : Entity) : Json.Value :=
  .record [("name", .optionalText entity.name),
    ("messages", .list (entity.messages.map Message.json))]

end Entity

namespace Model

/-- The document form of a model. -/
def shape : Shape Model where
  title := "struct Context"
  fields := [
    .of "contracts" false (Reader.list (Message.shape.read Json.surplus))
      fun model contracts => { model with contracts },
    .of "entities" false (Reader.list (Entity.shape.read Json.surplus))
      fun model entities => { model with entities }]
  blank := empty

/-- The model as a JSON value. -/
def json (model : Model) : Json.Value :=
  .record [("contracts", .list (model.contracts.map Message.json)),
    ("entities", .list (model.entities.map Entity.json))]

/-- The model as a JSON text. -/
def toJson (model : Model) : String := model.json.compact

/-- The model that a JSON document describes. -/
def ofJson (document : ByteArray) : Except DocumentFault Model :=
  Json.decode (shape.read Json.surplus) document

end Model

end MessageContracts
