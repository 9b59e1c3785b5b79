import MessageContracts.Settings
import MessageContracts.Model
import MessageContracts.Spelling
import MessageContracts.Trace

/-!
# What a generation pass emits

A pass is a list of steps that depends on the settings, the spelling style and the model alone:
texts to write, changes of level, and events to report. Each contract becomes a class and each
named entity one interface for every configured rule that some message of it joins. What is emitted
is counted on the way. Blocks stand between braces on lines of their own, one level deeper than the
braces.
-/

namespace MessageContracts

/-- What a pass has emitted. -/
structure Summary where
  /-- How many classes. -/
  contracts : Nat
  /-- How many interfaces. -/
  interfaces : Nat
  /-- How many entities were skipped for lack of a name. -/
  skippedEntities : Nat
deriving DecidableEq, Repr

/-- Something that a pass reports. -/
inductive Event where
  /-- A class is about to be written. -/
  | contract (name : String) (members modifiers : Nat)
  /-- An entity without a name is passed over. -/
  | unnamedEntity
  /-- An interface is about to be written. -/
  | interface (entity declaration : String) (messages : Nat)
  /-- Everything has been written. -/
  | finished (summary : Summary)
deriving DecidableEq, Repr

/-- A step of a pass. -/
inductive Step where
  /-- Write a text and leave its last line open. -/
  | text (text : String)
  /-- Write a text and end its last line. -/
  | lines (text : String)
  /-- End the current line. -/
  | endLine
  /-- Raise the level. -/
  | indent
  /-- Lower the level. -/
  | dedent
  /-- Report an event. -/
  | report (event : Event)
deriving DecidableEq, Repr

/-- What a pass has come to so far: its steps, and the counts of what they emit. -/
structure Emission where
  /-- The steps, in order. -/
  steps : Array Step
  /-- What they emit. -/
  summary : Summary

/-- Nothing has been emitted yet. -/
def Emission.none : Emission := ⟨#[], ⟨0, 0, 0⟩⟩

namespace Event

/-- The record of an event. -/
def record (event : Event) : TraceRecord :=
  let entry (severity : Severity) := TraceRecord.mk severity "codedsl_core::generator"
  match event with
  | .contract name members modifiers =>
    entry .debug "emitting contract"
      [("contract", .plain name), ("members", .count members), ("modifiers", .count modifiers)]
  | .unnamedEntity => entry .trace "skipping unnamed entity" []
  | .interface entity declaration messages =>
    entry .debug "emitting entity interface"
      [("entity", .quoted entity), ("interface", .plain declaration),
        ("messages", .count messages)]
  | .finished summary =>
    entry .info "generation finished"
      [("contracts", .count summary.contracts), ("interfaces", .count summary.interfaces),
        ("skipped_entities", .count summary.skippedEntities)]

end Event

/-- A generator: settings together with a spelling style. -/
structure Generator where
  /-- The templates and wrappers. -/
  settings : Settings
  /-- The spelling of members. -/
  spelling : SpellingStyle

namespace Generator

/-- The generator of settings with the conventions of C#. -/
def ofSettings (settings : Settings) : Generator := ⟨settings, Spelling.csharp⟩

/-- It has these settings. -/
theorem ofSettings_settings (settings : Settings) : (ofSettings settings).settings = settings := rfl

/-- It spells fields in Pascal case. -/
theorem ofSettings_member (settings : Settings) :
    (ofSettings settings).spelling.member = Spelling.pascalCase := by
  rw [ofSettings, Spelling.csharp]

/-- It spells parameters in camel case. -/
theorem ofSettings_parameter (settings : Settings) :
    (ofSettings settings).spelling.parameter = Spelling.parameterName := by
  rw [ofSettings, Spelling.csharp]

/-- A block: its steps one level deeper, between braces. -/
def block (body : List Step) : List Step :=
  [.lines "\x7b", .indent] ++ body ++ [.dedent, .lines "\x7d"]

/-- The field declaration of the member at a position counted from one. -/
def memberSteps (generator : Generator) (member : Member) (position : Nat) : List Step :=
  [.lines (generator.settings.member.render
    #v[position.repr, member.type, generator.spelling.member member.name])]

/-- A constructor parameter. -/
def parameterText (generator : Generator) (member : Member) : String :=
  member.type ++ " " ++ generator.spelling.parameter member.name

/-- The assignment of a parameter to its field. -/
def assignmentSteps (generator : Generator) (member : Member) : List Step :=
  [.lines (generator.spelling.member member.name ++ " = "
    ++ generator.spelling.parameter member.name ++ ";")]

/-- The list of implemented interfaces, which continues the line of the class declaration. -/
def baseSteps (modifiers : List Modifier) : List Step :=
  if modifiers.isEmpty then []
  else [.text (" : " ++ ", ".intercalate (modifiers.map (·.interface)))]

/-- The body of a class: its fields and both constructors, or nothing for no fields. -/
def bodySteps (generator : Generator) (contract : Message) : List Step :=
  if contract.members.isEmpty then []
  else
    (contract.members.zipIdx 1).flatMap (fun (member, position) =>
      generator.memberSteps member position)
    ++ [.lines (generator.settings.privateConstructor.render #v[contract.name]),
      .text ("public " ++ contract.name ++ " ("),
      .text (", ".intercalate (contract.members.map generator.parameterText)),
      .lines ")"]
    ++ block (contract.members.flatMap generator.assignmentSteps)

/-- A class. -/
def contractSteps (generator : Generator) (contract : Message) : List Step :=
  [.report (.contract contract.name contract.members.length contract.modifiers.length),
    .text (generator.settings.classHeader.render #v[contract.name])]
  ++ baseSteps contract.modifiers ++ [.endLine] ++ block (generator.bodySteps contract)

/-- The messages of an entity that join an interface rule. -/
def joining (rule : InterfaceRule) (entity : Entity) : List Message :=
  entity.messages.filter (·.carriesAny rule.tags)

/-- The interface of one rule, or nothing when no message joins it. -/
def interfaceSteps (generator : Generator) (name : String) (entity : Entity)
    (rule : InterfaceRule) : List Step :=
  let messages := joining rule entity
  if messages.isEmpty then []
  else
    let declaration := rule.name.render #v[name]
    [.report (.interface name declaration messages.length), .endLine, .lines declaration]
    ++ block (messages.map fun message =>
      .lines (generator.settings.interfaceMember.render #v[message.name]))

/-- Go on with a class. -/
def addContract (generator : Generator) (emission : Emission) (contract : Message) : Emission where
  steps := emission.steps ++ generator.contractSteps contract
  summary := { emission.summary with contracts := emission.summary.contracts + 1 }

/-- Go on with the interface of one rule, unless no message joins it. -/
def addInterface (generator : Generator) (name : String) (entity : Entity) (emission : Emission)
    (rule : InterfaceRule) : Emission :=
  if (joining rule entity).isEmpty then emission
  else
    { steps := emission.steps ++ generator.interfaceSteps name entity rule
      summary := { emission.summary with interfaces := emission.summary.interfaces + 1 } }

/-- Go on with the interfaces of an entity, or pass over an entity without a name. -/
def addEntity (generator : Generator) (emission : Emission) (entity : Entity) : Emission :=
  match entity.properName with
  | none =>
    { steps := emission.steps.push (.report .unnamedEntity)
      summary := { emission.summary with
        skippedEntities := emission.summary.skippedEntities + 1 } }
  | some name => generator.settings.interfaces.foldl (generator.addInterface name entity) emission

/-- The classes and then the interfaces of a model, without wrappers. -/
def emission (generator : Generator) (model : Model) : Emission :=
  model.entities.foldl generator.addEntity (model.contracts.foldl generator.addContract .none)

/-- What a pass over the model emits. -/
def summary (generator : Generator) (model : Model) : Summary := (generator.emission model).summary

/-- The steps inside the configured region. -/
def inRegion (settings : Settings) (body : List Step) : List Step :=
  match settings.regionToOpen with
  | none => body
  | some region => [.lines ("#region " ++ region)] ++ body ++ [.lines "#endregion"]

/-- The steps inside the configured namespace. -/
def inNamespace (settings : Settings) (body : List Step) : List Step :=
  match settings.namespaceToOpen with
  | none => body
  | some name => [.lines ("namespace " ++ name)] ++ block body

/-- All steps of a pass over the model. -/
def steps (generator : Generator) (model : Model) : List Step :=
  let emission := generator.emission model
  inNamespace generator.settings (inRegion generator.settings emission.steps.toList)
  ++ [.report (.finished emission.summary)]

end Generator

end MessageContracts
