import MessageContracts.Proofs.ReturnedInput
import MessageContracts.Proofs.Traversal

/-!
# The steps of a pass with carriage returns

Settings and a model with carriage returns in front of their line feeds give the steps of the pass
without them, each with the carriage returns put into its texts. Every part of the generator joins
texts, renders templates or spells identifiers, and all three go along with putting them in.
-/

namespace MessageContracts

open Text Generator

/-- The event with carriage returns in its texts. -/
def Event.withReturns : Event → Event
  | contract name members modifiers => contract (Text.withReturns name) members modifiers
  | unnamedEntity => unnamedEntity
  | interface entity declaration messages =>
    interface (Text.withReturns entity) (Text.withReturns declaration) messages
  | finished summary => finished summary

namespace Step

/-- The step with carriage returns in its text. -/
def withReturns : Step → Step
  | text content => text (Text.withReturns content)
  | lines content => lines (Text.withReturns content)
  | report event => report event.withReturns
  | step => step

end Step

/-- A message has the same tags with carriage returns. -/
theorem Message.carriesAny_withReturns (message : Message) (tags : List String) :
    message.withReturns.carriesAny tags = message.carriesAny tags := by
  rw [carriesAny, withReturns, List.any_map]
  rfl

/-- An entity is as nameless with carriage returns as without. -/
theorem Entity.properName_withReturns (entity : Entity) :
    entity.withReturns.properName = entity.properName.map Text.withReturns := by
  have reserved : ∀ name, (Text.withReturns name != nameless) = (name != nameless) := by
    intro name
    rw [Bool.eq_iff_iff, bne_iff_ne, bne_iff_ne]
    exact (withReturns_eq_iff (by decide)).not
  rw [properName, withReturns, Option.filter_map, properName]
  exact congrArg (fun p => (entity.name.filter p).map Text.withReturns) (funext reserved)

/-- A wrapper is as empty with carriage returns as without. -/
theorem Text.filter_ne_empty_withReturns (wrapper : Option String) :
    (wrapper.map withReturns).filter (· != "") = (wrapper.filter (· != "")).map withReturns := by
  have empty : ∀ name, (withReturns name != "") = (name != "") := by
    intro name
    rw [Bool.eq_iff_iff, bne_iff_ne, bne_iff_ne]
    exact (withReturns_eq_iff (by decide)).not
  rw [Option.filter_map]
  exact congrArg (fun p => (wrapper.filter p).map withReturns) (funext empty)

namespace Generator

/-- The messages that join a rule are the same with carriage returns. -/
theorem joining_withReturns {rule returned : InterfaceRule} (tags : returned.tags = rule.tags)
    (entity : Entity) :
    joining returned entity.withReturns = (joining rule entity).map Message.withReturns := by
  rw [joining, Entity.withReturns, List.filter_map, joining, tags]
  refine congrArg (fun p => (entity.messages.filter p).map Message.withReturns) (funext ?_)
  exact fun message => message.carriesAny_withReturns rule.tags

/-- A block with carriage returns is the block of the steps with theirs. -/
theorem map_block (body : List Step) :
    (block body).map Step.withReturns = block (body.map Step.withReturns) := by
  simp only [block, List.map_append]
  rfl

/-- A constructor parameter gets its carriage returns from the type and the name. -/
theorem parameterText_withReturns (settings returned : Settings) (member : Member) :
    (ofSettings returned).parameterText member.withReturns =
      Text.withReturns ((ofSettings settings).parameterText member) := by
  have space : Text.withReturns " " = " " := withReturns_of_not_mem (by decide)
  rw [parameterText, parameterText, ofSettings_parameter, ofSettings_parameter, Member.withReturns,
    Spelling.parameterName_withReturns, Text.withReturns_append, Text.withReturns_append,
    space]

/-- An assignment gets its carriage returns from the name. -/
theorem assignmentSteps_withReturns (settings returned : Settings) (member : Member) :
    (ofSettings returned).assignmentSteps member.withReturns =
      ((ofSettings settings).assignmentSteps member).map Step.withReturns := by
  have equals : Text.withReturns " = " = " = " := withReturns_of_not_mem (by decide)
  have semicolon : Text.withReturns ";" = ";" := withReturns_of_not_mem (by decide)
  rw [assignmentSteps, assignmentSteps, List.map_singleton, Step.withReturns, ofSettings_member,
    ofSettings_parameter, ofSettings_member, ofSettings_parameter, Member.withReturns,
    Spelling.parameterName_withReturns, Spelling.pascalCase_withReturns]
  simp only [Text.withReturns_append, equals, semicolon]

/-- The list of interfaces gets its carriage returns from the modifiers. -/
theorem baseSteps_withReturns (modifiers : List Modifier) :
    baseSteps (modifiers.map Modifier.withReturns) =
      (baseSteps modifiers).map Step.withReturns := by
  have colon : Text.withReturns " : " = " : " := withReturns_of_not_mem (by decide)
  have names : (modifiers.map Modifier.withReturns).map (·.interface) =
      (modifiers.map (·.interface)).map Text.withReturns := by
    rw [List.map_map, List.map_map]
    rfl
  rw [baseSteps, baseSteps, List.isEmpty_map, names]
  cases modifiers.isEmpty with
  | true => rfl
  | false =>
    rw [if_neg Bool.false_ne_true, if_neg Bool.false_ne_true, List.map_singleton, Step.withReturns,
      Text.withReturns_append, colon, withReturns_intercalate (by decide)]

section Steps

variable {settings returned : Settings} (change : settings.Returned returned)
include change

/-- A field declaration gets its carriage returns from the type and the name. -/
theorem memberSteps_withReturns (member : Member) (position : Nat) :
    (ofSettings returned).memberSteps member.withReturns position =
      ((ofSettings settings).memberSteps member position).map Step.withReturns := by
  have number : position.repr = Text.withReturns position.repr :=
    (withReturns_of_not_mem (not_mem_repr (by decide) position)).symm
  have rendered := change.member.render_three position.repr member.type
    (Spelling.pascalCase member.name)
  rw [← number, ← Spelling.pascalCase_withReturns] at rendered
  exact congrArg (fun content => [Step.lines content]) rendered

/-- The field declarations get their carriage returns one by one. -/
theorem fieldSteps_withReturns (members : List Member) :
    ((members.map Member.withReturns).zipIdx 1).flatMap
      (fun (member, position) => (ofSettings returned).memberSteps member position) =
    ((members.zipIdx 1).flatMap
      (fun (member, position) => (ofSettings settings).memberSteps member position)).map
        Step.withReturns := by
  rw [List.zipIdx_map, List.flatMap_map, List.map_flatMap]
  exact List.flatMap_congr fun place _ => memberSteps_withReturns change place.1 place.2

/-- The body of a class gets its carriage returns from the message. -/
theorem bodySteps_withReturns (contract : Message) :
    (ofSettings returned).bodySteps contract.withReturns =
      ((ofSettings settings).bodySteps contract).map Step.withReturns := by
  have fields := fieldSteps_withReturns change contract.members
  have parameters : (contract.members.map Member.withReturns).map
      (ofSettings returned).parameterText =
      (contract.members.map (ofSettings settings).parameterText).map Text.withReturns := by
    rw [List.map_map, List.map_map]
    exact List.map_congr_left fun member _ => parameterText_withReturns settings returned member
  have assignments : (contract.members.map Member.withReturns).flatMap
      (ofSettings returned).assignmentSteps =
      (contract.members.flatMap (ofSettings settings).assignmentSteps).map Step.withReturns := by
    rw [List.flatMap_map, List.map_flatMap]
    exact List.flatMap_congr fun member _ => assignmentSteps_withReturns settings returned member
  have opening : Text.withReturns "public " = "public " := withReturns_of_not_mem (by decide)
  have bracket : Text.withReturns " (" = " (" := withReturns_of_not_mem (by decide)
  have closing : Text.withReturns ")" = ")" := withReturns_of_not_mem (by decide)
  rw [bodySteps, bodySteps, Message.withReturns, List.isEmpty_map, fields, parameters, assignments]
  cases contract.members.isEmpty with
  | true => rfl
  | false =>
    rw [if_neg Bool.false_ne_true, if_neg Bool.false_ne_true, List.map_append, List.map_append,
      map_block]
    simp only [List.map_cons, List.map_nil, Step.withReturns, Text.withReturns_append, opening,
      bracket, closing, withReturns_intercalate (by decide : '\n' ∉ ", ".toList),
      ofSettings_settings, change.privateConstructor.render_one]

/-- A class gets its carriage returns from the message. -/
theorem contractSteps_withReturns (contract : Message) :
    (ofSettings returned).contractSteps contract.withReturns =
      ((ofSettings settings).contractSteps contract).map Step.withReturns := by
  rw [contractSteps, contractSteps, bodySteps_withReturns change]
  simp only [List.map_append, map_block, ← baseSteps_withReturns, List.map_cons, List.map_nil,
    Step.withReturns, Event.withReturns, Message.withReturns, List.length_map,
    ofSettings_settings, change.classHeader.render_one]

/-- An interface gets its carriage returns from the entity's name and the messages. -/
theorem interfaceSteps_withReturns (name : String) (entity : Entity) {rule other : InterfaceRule}
    (rules : rule.Returned other) :
    (ofSettings returned).interfaceSteps (Text.withReturns name) entity.withReturns other =
      ((ofSettings settings).interfaceSteps name entity rule).map Step.withReturns := by
  rw [interfaceSteps, interfaceSteps]
  dsimp only
  rw [joining_withReturns rules.2, List.isEmpty_map]
  cases (joining rule entity).isEmpty with
  | true => rfl
  | false =>
    rw [if_neg Bool.false_ne_true, if_neg Bool.false_ne_true, rules.1.render_one]
    simp only [List.map_append, map_block, List.map_map, List.map_cons, List.map_nil,
      Step.withReturns, Event.withReturns, List.length_map, Function.comp_def,
      Message.withReturns, ofSettings_settings, change.interfaceMember.render_one]

/-- The interfaces of an entity get their carriage returns from its name and its messages. -/
theorem entitySteps_withReturns (entity : Entity) :
    (ofSettings returned).entitySteps entity.withReturns =
      ((ofSettings settings).entitySteps entity).map Step.withReturns := by
  rw [entitySteps, entitySteps, entity.properName_withReturns]
  cases entity.properName with
  | none => rfl
  | some name =>
    have correspond := change.interfaces
    change returned.interfaces.flatMap _ = (settings.interfaces.flatMap _).map _
    generalize settings.interfaces = rules, returned.interfaces = others at correspond ⊢
    induction correspond with
    | nil => rfl
    | cons rules _ ih =>
      rw [List.flatMap_cons, List.flatMap_cons, List.map_append, ih,
        interfaceSteps_withReturns change name entity rules]

/-- An entity gives rise to as many interfaces with carriage returns as without. -/
theorem interfaceCount_withReturns (entity : Entity) :
    (ofSettings returned).interfaceCount entity.withReturns =
      (ofSettings settings).interfaceCount entity := by
  rw [interfaceCount, interfaceCount, entity.properName_withReturns]
  cases entity.properName with
  | none => rfl
  | some name =>
    have correspond := change.interfaces
    change returned.interfaces.countP _ = settings.interfaces.countP _
    generalize settings.interfaces = rules, returned.interfaces = others at correspond ⊢
    induction correspond with
    | nil => rfl
    | cons rules _ ih =>
      rw [List.countP_cons, List.countP_cons, ih, joining_withReturns rules.2, List.isEmpty_map]

/-- A pass emits as much with carriage returns as without. -/
theorem summary_withReturns (model : Model) :
    (ofSettings returned).summary model.withReturns = (ofSettings settings).summary model := by
  have counts : (model.entities.map Entity.withReturns).map (ofSettings returned).interfaceCount =
      model.entities.map (ofSettings settings).interfaceCount := by
    rw [List.map_map]
    exact List.map_congr_left fun entity _ => interfaceCount_withReturns change entity
  have skipped : (model.entities.map Entity.withReturns).countP (·.properName.isNone) =
      model.entities.countP (·.properName.isNone) := by
    rw [List.countP_map]
    refine List.countP_congr fun entity _ => ?_
    rw [Function.comp_apply, entity.properName_withReturns, Option.isNone_map]
  rw [summary_eq, summary_eq, Model.withReturns, counts, skipped, List.length_map]

/-- The classes and interfaces get their carriage returns from the model. -/
theorem coreSteps_withReturns (model : Model) :
    (ofSettings returned).coreSteps model.withReturns =
      ((ofSettings settings).coreSteps model).map Step.withReturns := by
  rw [coreSteps, coreSteps, Model.withReturns, List.flatMap_map, List.flatMap_map, List.map_append,
    List.map_flatMap, List.map_flatMap]
  congr 1
  · exact List.flatMap_congr fun contract _ => contractSteps_withReturns change contract
  · exact List.flatMap_congr fun entity _ => entitySteps_withReturns change entity

/-- The region gets its carriage returns from its name and its body. -/
theorem inRegion_withReturns (body : List Step) :
    inRegion returned (body.map Step.withReturns) =
      (inRegion settings body).map Step.withReturns := by
  have opening : Text.withReturns "#region " = "#region " := withReturns_of_not_mem (by decide)
  have closing : Text.withReturns "#endregion" = "#endregion" := withReturns_of_not_mem (by decide)
  have same : returned.regionToOpen = settings.regionToOpen.map Text.withReturns := by
    rw [Settings.regionToOpen, change.region, Text.filter_ne_empty_withReturns]
    rfl
  rw [inRegion, inRegion, same]
  cases settings.regionToOpen with
  | none => rfl
  | some region =>
    simp only [Option.map_some, List.map_append, List.map_cons, List.map_nil, Step.withReturns,
      Text.withReturns_append, opening, closing]

/-- The namespace gets its carriage returns from its name and its body. -/
theorem inNamespace_withReturns (body : List Step) :
    inNamespace returned (body.map Step.withReturns) =
      (inNamespace settings body).map Step.withReturns := by
  have opening : Text.withReturns "namespace " = "namespace " := withReturns_of_not_mem (by decide)
  have same : returned.namespaceToOpen = settings.namespaceToOpen.map Text.withReturns := by
    rw [Settings.namespaceToOpen, change.nameSpace, Text.filter_ne_empty_withReturns]
    rfl
  rw [inNamespace, inNamespace, same]
  cases settings.namespaceToOpen with
  | none => rfl
  | some name =>
    simp only [Option.map_some, List.map_append, map_block, List.map_cons, List.map_nil,
      Step.withReturns, Text.withReturns_append, opening]

/-- A pass emits the same steps with carriage returns as without, each with those of its text. -/
theorem steps_withReturns (model : Model) :
    (ofSettings returned).steps model.withReturns =
      ((ofSettings settings).steps model).map Step.withReturns := by
  rw [steps_eq, steps_eq, coreSteps_withReturns change, summary_withReturns change]
  change inNamespace returned (inRegion returned _) ++ _ = _
  rw [inRegion_withReturns change, inNamespace_withReturns change, List.map_append]
  rfl

end Steps

end Generator

end MessageContracts
