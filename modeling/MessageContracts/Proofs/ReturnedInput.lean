import Mathlib.Data.List.Forall2
import MessageContracts.Emission
import MessageContracts.Proofs.SpelledBreaks

/-!
# Settings and models with carriage returns in front of their line feeds

The source of every template, the wrappers, and every text of a model that reaches the output get a
carriage return in front of each line feed. Tags and identifiers of tags are compared and never
written, so they stay. The templates go on to compile.
-/

namespace MessageContracts

/-- The template whose source has a carriage return in front of every line feed. -/
def Template.withReturns {arity : Nat} (template : Template arity) :
    Except TemplateError (Template arity) :=
  parse (Text.withReturns template.source)

/-- The rule with carriage returns in its declaration. -/
def InterfaceRule.withReturns (rule : InterfaceRule) : Except TemplateError InterfaceRule := do
  return ⟨← rule.name.withReturns, rule.tags⟩

/-- The settings with carriage returns in every template and both wrappers. -/
def Settings.withReturns (settings : Settings) : Except TemplateError Settings := do
  let classHeader ← settings.classHeader.withReturns
  let member ← settings.member.withReturns
  let privateConstructor ← settings.privateConstructor.withReturns
  let interfaceMember ← settings.interfaceMember.withReturns
  let interfaces ← settings.interfaces.mapM InterfaceRule.withReturns
  return ⟨classHeader, member, privateConstructor, settings.nameSpace.map Text.withReturns,
    settings.region.map Text.withReturns, interfaceMember, interfaces⟩

/-- The member with carriage returns in its type and its name. -/
def Member.withReturns (member : Member) : Member :=
  ⟨Text.withReturns member.type, Text.withReturns member.name⟩

/-- The modifier with carriage returns in its interface. -/
def Modifier.withReturns (modifier : Modifier) : Modifier :=
  ⟨modifier.identifier, Text.withReturns modifier.interface⟩

/-- The message with carriage returns in everything that is written. -/
def Message.withReturns (message : Message) : Message :=
  ⟨Text.withReturns message.name, message.members.map Member.withReturns,
    message.modifiers.map Modifier.withReturns⟩

/-- The entity with carriage returns in its name and its messages. -/
def Entity.withReturns (entity : Entity) : Entity :=
  ⟨entity.name.map Text.withReturns, entity.messages.map Message.withReturns⟩

/-- The model with carriage returns in everything that is written. -/
def Model.withReturns (model : Model) : Model :=
  ⟨model.contracts.map Message.withReturns, model.entities.map Entity.withReturns⟩

/-- Settings without carriage returns in their templates and wrappers. -/
structure Settings.ReturnFree (settings : Settings) : Prop where
  /-- None in the class declaration. -/
  classHeader : Text.ReturnFree settings.classHeader.source
  /-- None in the field declaration. -/
  member : Text.ReturnFree settings.member.source
  /-- None in the constructor without parameters. -/
  privateConstructor : Text.ReturnFree settings.privateConstructor.source
  /-- None in the namespace. -/
  nameSpace : ∀ name ∈ settings.nameSpace, Text.ReturnFree name
  /-- None in the region. -/
  region : ∀ name ∈ settings.region, Text.ReturnFree name
  /-- None in the line of an interface's body. -/
  interfaceMember : Text.ReturnFree settings.interfaceMember.source
  /-- None in the interface declarations. -/
  interfaces : ∀ rule ∈ settings.interfaces, Text.ReturnFree rule.name.source

/-- A message that is written without carriage returns. -/
structure Message.ReturnFree (message : Message) : Prop where
  /-- None in the name. -/
  name : Text.ReturnFree message.name
  /-- None in the types of the members. -/
  types : ∀ member ∈ message.members, Text.ReturnFree member.type
  /-- None in the names of the members. -/
  members : ∀ member ∈ message.members, Text.ReturnFree member.name
  /-- None in the interfaces of the modifiers. -/
  interfaces : ∀ modifier ∈ message.modifiers, Text.ReturnFree modifier.interface

/-- A model that is written without carriage returns. -/
structure Model.ReturnFree (model : Model) : Prop where
  /-- None in the contracts. -/
  contracts : ∀ message ∈ model.contracts, message.ReturnFree
  /-- None in the names of the entities. -/
  names : ∀ entity ∈ model.entities, ∀ name ∈ entity.name, Text.ReturnFree name
  /-- None in the messages of the entities. -/
  messages : ∀ entity ∈ model.entities, ∀ message ∈ entity.messages, message.ReturnFree

/-- A template that renders arguments with carriage returns as another renders them without. -/
def Template.Returned {arity : Nat} (template returned : Template arity) : Prop :=
  ∀ arguments, returned.render (arguments.map Text.withReturns) =
    Text.withReturns (template.render arguments)

/-- A template of one argument renders it with its carriage returns. -/
theorem Template.Returned.render_one {template returned : Template 1}
    (renders : template.Returned returned) (first : String) :
    returned.render #v[Text.withReturns first] = Text.withReturns (template.render #v[first]) := by
  rw [← renders]
  simp only [Vector.map_mk, List.map_toArray, List.map_cons, List.map_nil]

/-- A template of three arguments renders them with their carriage returns. -/
theorem Template.Returned.render_three {template returned : Template 3}
    (renders : template.Returned returned) (first second third : String) :
    returned.render #v[Text.withReturns first, Text.withReturns second, Text.withReturns third] =
      Text.withReturns (template.render #v[first, second, third]) := by
  rw [← renders]
  simp only [Vector.map_mk, List.map_toArray, List.map_cons, List.map_nil]

/-- Rules for the same tags, of which the second declares with carriage returns. -/
def InterfaceRule.Returned (rule returned : InterfaceRule) : Prop :=
  rule.name.Returned returned.name ∧ returned.tags = rule.tags

/-- Settings that render with carriage returns what others render without. -/
structure Settings.Returned (settings returned : Settings) : Prop where
  /-- The class declarations correspond. -/
  classHeader : settings.classHeader.Returned returned.classHeader
  /-- The field declarations correspond. -/
  member : settings.member.Returned returned.member
  /-- The constructors without parameters correspond. -/
  privateConstructor : settings.privateConstructor.Returned returned.privateConstructor
  /-- The namespace has its carriage returns. -/
  nameSpace : returned.nameSpace = settings.nameSpace.map Text.withReturns
  /-- The region has its carriage returns. -/
  region : returned.region = settings.region.map Text.withReturns
  /-- The lines of an interface's body correspond. -/
  interfaceMember : settings.interfaceMember.Returned returned.interfaceMember
  /-- The rules correspond one by one. -/
  interfaces : List.Forall₂ InterfaceRule.Returned settings.interfaces returned.interfaces

/-- A template with carriage returns in its source compiles, and renders accordingly. -/
theorem Template.exists_withReturns {arity : Nat} (fits : arity ≤ indexLimit)
    (template : Template arity) :
    ∃ returned, template.withReturns = .ok returned ∧ template.Returned returned :=
  exists_parse_withReturns fits template

/-- Every interface template with carriage returns compiles, and renders accordingly. -/
theorem InterfaceRule.exists_mapM_withReturns (rules : List InterfaceRule) :
    ∃ returned, rules.mapM withReturns = .ok returned ∧ List.Forall₂ Returned rules returned := by
  induction rules with
  | nil => exact ⟨[], rfl, .nil⟩
  | cons rule rest ih =>
    obtain ⟨name, compiled, renders⟩ := rule.name.exists_withReturns (by decide)
    obtain ⟨others, compiledOthers, correspond⟩ := ih
    refine ⟨⟨name, rule.tags⟩ :: others, ?_, .cons ⟨renders, rfl⟩ correspond⟩
    rw [List.mapM_cons, withReturns, compiled, compiledOthers]
    rfl

/-- The templates of settings with carriage returns compile, and render accordingly. -/
theorem Settings.exists_withReturns (settings : Settings) :
    ∃ returned, settings.withReturns = .ok returned ∧ settings.Returned returned := by
  obtain ⟨classHeader, headerParsed, headers⟩ := settings.classHeader.exists_withReturns (by decide)
  obtain ⟨field, fieldParsed, fields⟩ := settings.member.exists_withReturns (by decide)
  obtain ⟨bare, bareParsed, bares⟩ := settings.privateConstructor.exists_withReturns (by decide)
  obtain ⟨line, lineParsed, lines⟩ := settings.interfaceMember.exists_withReturns (by decide)
  obtain ⟨rules, rulesParsed, correspond⟩ :=
    InterfaceRule.exists_mapM_withReturns settings.interfaces
  refine ⟨⟨classHeader, field, bare, settings.nameSpace.map Text.withReturns,
    settings.region.map Text.withReturns, line, rules⟩, ?_,
    ⟨headers, fields, bares, rfl, rfl, lines, correspond⟩⟩
  rw [withReturns, headerParsed, fieldParsed, bareParsed, lineParsed, rulesParsed]
  rfl

end MessageContracts
