import Mathlib.Data.List.ProdSigma
import MessageContracts.Proofs.ReportedSteps
import MessageContracts.Proofs.SourceLayout

/-!
# The parts of a pass and what they announce

Between the lines that open and close its wrappers a pass writes one class for each contract, and
then for each entity one interface for every rule that some message of it carries a tag of. Each of
these is a part of the pass and announces itself before it writes anything; an entity without a name
is announced as skipped and writes nothing. What a pass counts and what it announces is said here of
the model alone, without the steps, and shown to be what the steps report.
-/

namespace MessageContracts

/-- The entity has no name to be emitted under. -/
def Entity.Unnamed (entity : Entity) : Prop := entity.name = none ∨ entity.name = some "null"

/-- An entity is emitted under no name exactly when it has none. -/
theorem Entity.properName_eq_none_iff (entity : Entity) :
    entity.properName = none ↔ entity.Unnamed := by
  rw [properName, nameless, Unnamed]
  cases entity.name with
  | none => exact iff_of_true rfl (.inl rfl)
  | some name =>
    rw [Generator.filter_bne]
    by_cases named : name = "null"
    · rw [if_pos named]
      exact iff_of_true rfl (.inr (congrArg some named))
    · rw [if_neg named]
      simp [named]

instance Entity.decidableUnnamed (entity : Entity) : Decidable entity.Unnamed :=
  decidable_of_iff (entity.properName = none) entity.properName_eq_none_iff

/-- The messages of an entity with a modifier whose identifier is a tag of the rule. -/
def InterfaceRule.matching (rule : InterfaceRule) (entity : Entity) : List Message :=
  entity.messages.filter fun message =>
    decide (∃ modifier ∈ message.modifiers, modifier.identifier ∈ rule.tags)

/-- The entity is emitted under a name, and some message of it has a modifier whose identifier is a
tag of the rule. -/
def Entity.Gives (entity : Entity) (rule : InterfaceRule) : Prop :=
  ¬ entity.Unnamed ∧
    ∃ message ∈ entity.messages, ∃ modifier ∈ message.modifiers, modifier.identifier ∈ rule.tags

/-- Some message matches a rule exactly when not all of them are passed over. -/
theorem InterfaceRule.matching_eq_nil_iff (rule : InterfaceRule) (entity : Entity) :
    rule.matching entity = [] ↔ ¬ ∃ message ∈ entity.messages,
      ∃ modifier ∈ message.modifiers, modifier.identifier ∈ rule.tags := by
  rw [matching, List.filter_eq_nil_iff]
  simp only [decide_eq_true_eq, not_exists, not_and]

instance Entity.decidableGives (entity : Entity) (rule : InterfaceRule) :
    Decidable (entity.Gives rule) :=
  decidable_of_iff (¬ entity.Unnamed ∧ ¬ rule.matching entity = [])
    (and_congr_right' (by rw [rule.matching_eq_nil_iff entity, not_not]))

/-- A part of a pass. -/
inductive PassPart where
  /-- The lines that open the namespace and the region. -/
  | opening
  /-- The class of a contract. -/
  | contract (message : Message)
  /-- An entity without a name. -/
  | unnamed
  /-- The interface of a rule that some message of an entity matches, under the entity's name. -/
  | interface (name : String) (entity : Entity) (rule : InterfaceRule)
    (matched : rule.matching entity ≠ [])
  /-- The lines that close the region and the namespace. -/
  | closing

namespace PassPart

/-- The steps of a part. -/
def steps (generator : Generator) : PassPart → List Step
  | opening => Generator.openingSteps generator.settings
  | .contract message => generator.contractSteps message
  | unnamed => [.report .unnamedEntity]
  | interface name entity rule _ => generator.interfaceSteps name entity rule
  | closing => Generator.closingSteps generator.settings

/-- The event that announces a part. The wrappers are not announced. -/
def event? : PassPart → Option Event
  | opening | closing => none
  | .contract message =>
    some (.contract message.name message.members.length message.modifiers.length)
  | unnamed => some .unnamedEntity
  | interface name entity rule _ =>
    some (.interface name (rule.name.render (.singleton name)) (rule.matching entity).length)

end PassPart

/-- The record of the class of a contract. -/
def Message.announcement (contract : Message) : TraceRecord :=
  ⟨.debug, "codedsl_core::generator", "emitting contract",
    [("contract", .plain contract.name), ("members", .count contract.members.length),
      ("modifiers", .count contract.modifiers.length)]⟩

/-- The interface of a rule for an entity with a name, unless no message matches. -/
def InterfaceRule.part? (name : String) (entity : Entity) (rule : InterfaceRule) :
    Option PassPart :=
  if matched : rule.matching entity ≠ [] then some (.interface name entity rule matched) else none

/-- The record of that interface, unless no message matches. -/
def InterfaceRule.announcement? (name : String) (entity : Entity) (rule : InterfaceRule) :
    Option TraceRecord :=
  if rule.matching entity ≠ [] then
    some ⟨.debug, "codedsl_core::generator", "emitting entity interface",
      [("entity", .quoted name), ("interface", .plain (rule.name.render (.singleton name))),
        ("messages", .count (rule.matching entity).length)]⟩
  else none

namespace Generator

/-- The parts of a pass that an entity gives rise to. -/
def entityParts (generator : Generator) (entity : Entity) : List PassPart :=
  match entity.name with
  | none => [.unnamed]
  | some name =>
    if name = "null" then [.unnamed]
    else generator.settings.interfaces.filterMap (InterfaceRule.part? name entity)

/-- The parts of a pass, in order. -/
def parts (generator : Generator) (model : Model) : List PassPart :=
  [.opening] ++ model.contracts.map .contract ++ model.entities.flatMap generator.entityParts
  ++ [.closing]

/-- What there is to emit: every contract, every pair of an entity with a name and a rule that one
of its messages carries a tag of, and apart from them the entities without a name. -/
def counts (generator : Generator) (model : Model) : Summary where
  contracts := model.contracts.length
  interfaces := (model.entities ×ˢ generator.settings.interfaces).countP fun pair =>
    decide (pair.1.Gives pair.2)
  skippedEntities := model.entities.countP fun entity => decide entity.Unnamed

/-- The records of an entity: that it is skipped, or one for each of its interfaces. -/
def entityAnnouncements (generator : Generator) (entity : Entity) : List TraceRecord :=
  let skipping : TraceRecord := ⟨.trace, "codedsl_core::generator", "skipping unnamed entity", []⟩
  match entity.name with
  | none => [skipping]
  | some name =>
    if name = "null" then [skipping]
    else generator.settings.interfaces.filterMap (InterfaceRule.announcement? name entity)

/-- The records of a whole pass over a model. -/
def announcements (generator : Generator) (model : Model) : List TraceRecord :=
  model.contracts.map Message.announcement
  ++ model.entities.flatMap generator.entityAnnouncements
  ++ [⟨.info, "codedsl_core::generator", "generation finished",
    [("contracts", .count (generator.counts model).contracts),
      ("interfaces", .count (generator.counts model).interfaces),
      ("skipped_entities", .count (generator.counts model).skippedEntities)]⟩]

/-! ## Counting -/

variable (generator : Generator) (model : Model)

/-- An entity gives rise to as many interfaces as it makes pairs with the rules. -/
theorem interfaceCount_eq_countP (entity : Entity) :
    generator.interfaceCount entity =
      generator.settings.interfaces.countP fun rule => decide (entity.Gives rule) := by
  cases proper : entity.properName with
  | none =>
    have unnamed := entity.properName_eq_none_iff.mp proper
    rw [interfaceCount, proper]
    refine (List.countP_eq_zero.mpr fun rule _ => ?_).symm
    rw [decide_eq_true_iff]
    exact fun gives => gives.1 unnamed
  | some name =>
    have named : ¬ entity.Unnamed := by
      rw [← entity.properName_eq_none_iff, proper]
      exact Option.some_ne_none name
    rw [interfaceCount, proper]
    refine List.countP_congr fun rule _ => ?_
    rw [show joining rule entity = rule.matching entity from joining_eq_filter rule entity,
      decide_eq_true_iff, Bool.not_eq_true', ← Bool.not_eq_true, List.isEmpty_iff,
      rule.matching_eq_nil_iff, not_not]
    exact (and_iff_right named).symm

/-- A pass sums up what there is to emit. -/
theorem summary_eq_counts : generator.summary model = generator.counts model := by
  have pairs : (model.entities.map generator.interfaceCount).sum =
      (model.entities ×ˢ generator.settings.interfaces).countP fun pair =>
        decide (pair.1.Gives pair.2) := by
    refine Eq.trans ?_ List.countP_flatMap.symm
    refine congrArg List.sum (List.map_congr_left fun entity _ => ?_)
    rw [interfaceCount_eq_countP, Function.comp_apply, List.countP_map]
    rfl
  have skipped : model.entities.countP (·.properName.isNone) =
      model.entities.countP fun entity => decide entity.Unnamed :=
    List.countP_congr fun entity _ => by
      rw [Option.isNone_iff_eq_none, decide_eq_true_iff, entity.properName_eq_none_iff]
  rw [summary_eq, counts, ← pairs, skipped]
  rfl

/-! ## The steps of the parts -/

/-- A rule that no message matches takes no steps, and every other one is a part. -/
theorem flatMap_toList_part? (name : String) (entity : Entity) (rule : InterfaceRule) :
    (rule.part? name entity).toList.flatMap (·.steps generator) =
      generator.interfaceSteps name entity rule := by
  have same : joining rule entity = rule.matching entity := joining_eq_filter rule entity
  by_cases matched : rule.matching entity ≠ []
  · rw [InterfaceRule.part?, dif_pos matched]
    exact List.flatMap_singleton ..
  · rw [InterfaceRule.part?, dif_neg matched, interfaceSteps, same, not_not.mp matched]
    rfl

/-- The steps of an entity are those of its parts. -/
theorem flatMap_entityParts (entity : Entity) :
    (generator.entityParts entity).flatMap (·.steps generator) = generator.entitySteps entity := by
  rw [entityParts, entitySteps, Entity.properName, Entity.nameless]
  cases entity.name with
  | none => rfl
  | some name =>
    dsimp only
    rw [filter_bne]
    by_cases unnamed : name = "null"
    · rw [if_pos unnamed, if_pos unnamed]
      rfl
    · rw [if_neg unnamed, if_neg unnamed]
      rw [List.filterMap_eq_flatMap_toList, List.flatMap_assoc]
      exact List.flatMap_congr fun rule _ => flatMap_toList_part? generator name entity rule

/-- A pass takes the steps of its parts one after the other and reports its counts at the end. -/
theorem steps_eq_parts : generator.steps model =
    (generator.parts model).flatMap (·.steps generator)
      ++ [.report (.finished (generator.counts model))] := by
  have entities : (model.entities.flatMap generator.entityParts).flatMap (·.steps generator) =
      model.entities.flatMap generator.entitySteps := by
    rw [List.flatMap_assoc]
    exact List.flatMap_congr fun entity _ => flatMap_entityParts generator entity
  have contracts : (model.contracts.map PassPart.contract).flatMap (·.steps generator) =
      model.contracts.flatMap generator.contractSteps :=
    List.flatMap_map ..
  rw [steps_eq, inNamespace_inRegion, summary_eq_counts, parts, List.flatMap_append,
    List.flatMap_append, List.flatMap_append, contracts, entities, List.flatMap_singleton,
    List.flatMap_singleton, coreSteps, List.append_assoc (PassPart.opening.steps generator)
      (model.contracts.flatMap generator.contractSteps)]
  rfl

/-! ## The announcements of the parts -/

/-- An interface is announced by the event of its part. -/
theorem announcement?_eq (name : String) (entity : Entity) (rule : InterfaceRule) :
    ((rule.part? name entity).bind PassPart.event?).map Event.record =
      rule.announcement? name entity := by
  rw [InterfaceRule.part?, InterfaceRule.announcement?]
  by_cases matched : rule.matching entity ≠ []
  · rw [dif_pos matched, if_pos matched]
    rfl
  · rw [dif_neg matched, if_neg matched]
    rfl

/-- An entity is announced by the events of its parts. -/
theorem entityAnnouncements_eq (entity : Entity) :
    ((generator.entityParts entity).filterMap PassPart.event?).map Event.record =
      generator.entityAnnouncements entity := by
  rw [entityParts, entityAnnouncements]
  cases entity.name with
  | none => rfl
  | some name =>
    dsimp only
    by_cases unnamed : name = "null"
    · rw [if_pos unnamed, if_pos unnamed]
      rfl
    · rw [if_neg unnamed, if_neg unnamed, List.filterMap_filterMap, List.map_filterMap]
      exact List.filterMap_congr fun rule _ => announcement?_eq name entity rule

/-- The events of the parts and the final one are the announcements of the pass. -/
theorem announcements_eq :
    ((generator.parts model).filterMap PassPart.event?
        ++ [Event.finished (generator.counts model)]).map Event.record =
      generator.announcements model := by
  have entities :
      ((model.entities.flatMap generator.entityParts).filterMap PassPart.event?).map Event.record =
        model.entities.flatMap generator.entityAnnouncements := by
    rw [List.filterMap_flatMap, List.map_flatMap]
    exact List.flatMap_congr fun entity _ => entityAnnouncements_eq generator entity
  have contracts : ((model.contracts.map PassPart.contract).filterMap PassPart.event?).map
      Event.record = model.contracts.map Message.announcement := by
    rw [List.filterMap_map, List.map_filterMap]
    exact congrFun List.filterMap_eq_map _
  have wrapped : (generator.parts model).filterMap PassPart.event? =
      (model.contracts.map .contract).filterMap PassPart.event?
        ++ (model.entities.flatMap generator.entityParts).filterMap PassPart.event? := by
    simp only [parts, List.filterMap_append]
    exact List.append_nil _
  rw [wrapped, List.map_append, List.map_append, contracts, entities, announcements]
  rfl

end Generator

end MessageContracts
