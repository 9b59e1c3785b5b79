import MessageContracts.Template

/-!
# Settings of the generated source

Every template that emission uses is a field here, compiled for the number of arguments that its
place supplies. The stock settings produce serialisable classes and two interfaces for each
entity, inside one region.
-/

namespace MessageContracts

/-- A rule that derives an interface from an entity's messages. -/
structure InterfaceRule where
  /-- The declaration; its argument is the entity's name. -/
  name : Template 1
  /-- A message joins the interface when one of its tags is listed here. -/
  tags : List String
deriving DecidableEq

/-- The templates and wrappers of the generated source. -/
structure Settings where
  /-- The class declaration; its argument is the message's name. -/
  classHeader : Template 1
  /-- The field declaration; its arguments are the position, counted from one, the type and the
  field's name. -/
  member : Template 3
  /-- The constructor without parameters; its argument is the message's name. -/
  privateConstructor : Template 1
  /-- The namespace around the output. -/
  nameSpace : Option String
  /-- The region around the output. -/
  region : Option String
  /-- A line of an interface's body; its argument is the message's name. -/
  interfaceMember : Template 1
  /-- The interfaces to derive from each entity, in this order. -/
  interfaces : List InterfaceRule
deriving DecidableEq

namespace Settings

/-- The region around the output unless another is configured. -/
def stockRegion : String := "Generated by Code DSL"

/-- The stock settings. -/
def stock : Settings where
  classHeader := .ofSource "\n[ProtoContract]\npublic sealed class \x7b0\x7d" (by decide)
  member := .ofSource "[ProtoMember(\x7b0\x7d)] public readonly \x7b1\x7d \x7b2\x7d;" (by decide)
  privateConstructor := .ofSource "\nprivate \x7b0\x7d () \x7b\x7b\x7d\x7d" (by decide)
  nameSpace := none
  region := some stockRegion
  interfaceMember := .ofSource "void When(\x7b0\x7d c);" (by decide)
  interfaces := [
    ⟨.ofSource "public interface I\x7b0\x7dAggregate" (by decide), ["?"]⟩,
    ⟨.ofSource "public interface I\x7b0\x7dAggregateState" (by decide), ["!"]⟩]

/-- The namespace to open; an empty name opens none. -/
def namespaceToOpen (settings : Settings) : Option String := settings.nameSpace.filter (· != "")

/-- The region to open; an empty name opens none. -/
def regionToOpen (settings : Settings) : Option String := settings.region.filter (· != "")

end Settings

end MessageContracts
