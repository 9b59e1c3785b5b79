import MessageContracts.Proofs.BlockLevels
import MessageContracts.Proofs.Traversal

/-!
# A generation pass with its braces marked

The blocks of a pass are those of its namespace, classes, constructors and interfaces. The pass is
repeated here with the braces of these blocks marked at the places where it writes them. Without
the marks it is the pass, step by step; with them its blocks are seen to be nested, whatever the
templates and the model hold.
-/

namespace MessageContracts

namespace Generator

variable (generator : Generator)

/-- The body of a class, with the braces around the assignments marked. -/
def markedBody (contract : Message) : List MarkedStep :=
  if contract.members.isEmpty then []
  else
    ((contract.members.zipIdx 1).flatMap (fun (member, position) =>
        generator.memberSteps member position)).map MarkedStep.plain
    ++ [.plain (.lines (generator.settings.privateConstructor.render (.singleton contract.name))),
      .plain (.text ("public " ++ contract.name ++ " (")),
      .plain (.text (", ".intercalate (contract.members.map generator.parameterText))),
      .plain (.lines ")")]
    ++ MarkedStep.block ((contract.members.flatMap generator.assignmentSteps).map MarkedStep.plain)

/-- A class, with its braces marked. -/
def markedContract (contract : Message) : List MarkedStep :=
  [.plain (.report (.contract contract.name contract.members.length contract.modifiers.length)),
    .plain (.text (generator.settings.classHeader.render (.singleton contract.name)))]
  ++ (baseSteps contract.modifiers).map MarkedStep.plain ++ [.plain .endLine]
  ++ MarkedStep.block (generator.markedBody contract)

/-- The interface of one rule, with its braces marked. -/
def markedInterface (name : String) (entity : Entity) (rule : InterfaceRule) :
    List MarkedStep :=
  let messages := joining rule entity
  if messages.isEmpty then []
  else
    let declaration := rule.name.render (.singleton name)
    [.plain (.report (.interface name declaration messages.length)), .plain .endLine,
      .plain (.lines declaration)]
    ++ MarkedStep.block (messages.map fun message =>
      .plain (.lines (generator.settings.interfaceMember.render (.singleton message.name))))

/-- All interfaces of an entity, with their braces marked. -/
def markedEntity (entity : Entity) : List MarkedStep :=
  match entity.properName with
  | none => [.plain (.report .unnamedEntity)]
  | some name => generator.settings.interfaces.flatMap (generator.markedInterface name entity)

/-- The classes and interfaces, with their braces marked. -/
def markedCore (model : Model) : List MarkedStep :=
  model.contracts.flatMap generator.markedContract ++ model.entities.flatMap generator.markedEntity

/-- All steps of a pass over the model, with the braces of the pass marked. -/
def markedSteps (model : Model) : List MarkedStep :=
  let inside := match generator.settings.regionToOpen with
    | none => generator.markedCore model
    | some region => [.plain (.lines ("#region " ++ region))] ++ generator.markedCore model
      ++ [.plain (.lines "#endregion")]
  let whole := match generator.settings.namespaceToOpen with
    | none => inside
    | some name => [.plain (.lines ("namespace " ++ name))] ++ MarkedStep.block inside
  whole ++ [.plain (.report (.finished (generator.summary model)))]

/-- Steps marked as plain are those steps. -/
theorem map_step_plain (steps : List Step) :
    (steps.map MarkedStep.plain).map MarkedStep.step = steps := by
  rw [List.map_map]
  exact List.map_id steps

/-- Marking the body of a class changes no step. -/
theorem map_step_markedBody (contract : Message) :
    (generator.markedBody contract).map MarkedStep.step = generator.bodySteps contract := by
  unfold markedBody bodySteps
  cases contract.members with
  | nil => rfl
  | cons member rest =>
    simp only [List.isEmpty_cons, Bool.false_eq_true, if_false]
    rw [List.map_append, List.map_append, map_step_plain, MarkedStep.map_step_block, map_step_plain]
    rfl

/-- Marking a class changes no step. -/
theorem map_step_markedContract (contract : Message) :
    (generator.markedContract contract).map MarkedStep.step = generator.contractSteps contract := by
  rw [markedContract, List.map_append, List.map_append, List.map_append, map_step_plain,
    MarkedStep.map_step_block, map_step_markedBody]
  rfl

/-- Marking an interface changes no step. -/
theorem map_step_markedInterface (name : String) (entity : Entity) (rule : InterfaceRule) :
    (generator.markedInterface name entity rule).map MarkedStep.step =
      generator.interfaceSteps name entity rule := by
  unfold markedInterface interfaceSteps
  cases joining rule entity with
  | nil => rfl
  | cons message rest =>
    simp only [List.isEmpty_cons, Bool.false_eq_true, if_false]
    rw [List.map_append, MarkedStep.map_step_block, List.map_map]
    rfl

/-- Marking the interfaces of an entity changes no step. -/
theorem map_step_markedEntity (entity : Entity) :
    (generator.markedEntity entity).map MarkedStep.step = generator.entitySteps entity := by
  unfold markedEntity entitySteps
  cases entity.properName with
  | none => rfl
  | some name =>
    simp only [List.map_flatMap, map_step_markedInterface]

/-- Marking the classes and interfaces changes no step. -/
theorem map_step_markedCore (model : Model) :
    (generator.markedCore model).map MarkedStep.step = generator.coreSteps model := by
  rw [markedCore, List.map_append, List.map_flatMap, List.map_flatMap]
  simp only [map_step_markedContract, map_step_markedEntity]
  rfl

/-- Without the marks the steps are those of the pass. -/
theorem map_step_markedSteps (model : Model) :
    (generator.markedSteps model).map MarkedStep.step = generator.steps model := by
  have core := map_step_markedCore generator model
  rw [steps_eq]
  unfold markedSteps inNamespace inRegion
  rw [List.map_append]
  cases generator.settings.namespaceToOpen with
  | none =>
    cases generator.settings.regionToOpen with
    | none => simp only [core]; rfl
    | some region => simp only [List.map_append, core]; rfl
  | some name =>
    cases generator.settings.regionToOpen with
    | none => simp only [List.map_append, MarkedStep.map_step_block, core]; rfl
    | some region => simp only [List.map_append, MarkedStep.map_step_block, core]; rfl

/-- Fields and assignments, like all steps that keep the level, hold no blocks. -/
theorem nested_plain {steps : List Step}
    (keeps : ∀ step ∈ steps, ∀ level, Step.endLevel level [step] = level) :
    MarkedStep.Nested bound (steps.map MarkedStep.plain) := by
  induction steps with
  | nil => exact .nil
  | cons step rest ih =>
    obtain ⟨first, others⟩ := List.forall_mem_cons.mp keeps
    exact (MarkedStep.Nested.plain first).append (ih others)

/-- A text with all its lines ended holds no blocks. -/
theorem nested_lines (content : String) : MarkedStep.Nested bound [.plain (.lines content)] :=
  .plain fun _ => rfl

/-- The blocks of a class body are nested. -/
theorem nested_markedBody (generator : Generator) (contract : Message) :
    MarkedStep.Nested 1 (generator.markedBody contract) := by
  unfold markedBody
  cases contract.members with
  | nil => exact .nil
  | cons member rest =>
    have fields : MarkedStep.Nested 1 ((((member :: rest).zipIdx 1).flatMap
        fun (member, position) => generator.memberSteps member position).map .plain) := by
      refine nested_plain fun step written => ?_
      obtain ⟨numbered, -, written⟩ := List.mem_flatMap.mp written
      rw [List.mem_singleton.mp written]
      exact fun _ => rfl
    have assignments : MarkedStep.Nested 0
        (((member :: rest).flatMap generator.assignmentSteps).map .plain) := by
      refine nested_plain fun step written => ?_
      obtain ⟨member, -, written⟩ := List.mem_flatMap.mp written
      rw [List.mem_singleton.mp written]
      exact fun _ => rfl
    have constructors (first second third : String) : MarkedStep.Nested 1
        [.plain (.lines first), .plain (.text second), .plain (.text third),
          .plain (.lines ")")] :=
      ((nested_lines first).append (.plain fun _ => rfl)).append
        ((MarkedStep.Nested.plain fun _ => rfl).append (nested_lines ")"))
    exact (fields.append (constructors _ _ _)).append assignments.block

/-- The blocks of a class are nested. -/
theorem nested_markedContract (generator : Generator) (contract : Message) :
    MarkedStep.Nested 2 (generator.markedContract contract) := by
  have reported (event : Event) (content : String) : MarkedStep.Nested 2
      [.plain (.report event), .plain (.text content)] :=
    (MarkedStep.Nested.plain fun _ => rfl).append (.plain fun _ => rfl)
  have bases : MarkedStep.Nested 2 ((baseSteps contract.modifiers).map .plain) := by
    unfold baseSteps
    cases contract.modifiers with
    | nil => exact .nil
    | cons modifier rest => exact .plain fun _ => rfl
  have ending : MarkedStep.Nested 2 [.plain .endLine] := .plain fun _ => rfl
  exact (((reported _ _).append bases).append ending).append
    (nested_markedBody generator contract).block

/-- The block of an interface is nested. -/
theorem nested_markedInterface (generator : Generator) (name : String) (entity : Entity)
    (rule : InterfaceRule) : MarkedStep.Nested 2 (generator.markedInterface name entity rule) := by
  unfold markedInterface
  cases joining rule entity with
  | nil => exact .nil
  | cons message rest =>
    have heading (event : Event) (declaration : String) : MarkedStep.Nested 2
        [.plain (.report event), .plain .endLine, .plain (.lines declaration)] :=
      ((MarkedStep.Nested.plain fun _ => rfl).append (.plain fun _ => rfl)).append
        (nested_lines declaration)
    have body : MarkedStep.Nested 1 ((message :: rest).map fun message =>
        .plain (.lines (generator.settings.interfaceMember.render (.singleton message.name)))) := by
      rw [List.map_eq_flatMap]
      exact .flatMap fun message => nested_lines _
    exact (heading _ _).append body.block

/-- The blocks of an entity's interfaces are nested. -/
theorem nested_markedEntity (generator : Generator) (entity : Entity) :
    MarkedStep.Nested 2 (generator.markedEntity entity) := by
  unfold markedEntity
  cases entity.properName with
  | none => exact .plain fun _ => rfl
  | some name => exact .flatMap fun rule => nested_markedInterface generator name entity rule

/-- The blocks of all classes and interfaces are nested. -/
theorem nested_markedCore (generator : Generator) (model : Model) :
    MarkedStep.Nested 2 (generator.markedCore model) :=
  (MarkedStep.Nested.flatMap fun contract => nested_markedContract generator contract).append
    (.flatMap fun entity => nested_markedEntity generator entity)

/-- The blocks of a pass are nested. -/
theorem nested_markedSteps (generator : Generator) (model : Model) :
    MarkedStep.Nested 3 (generator.markedSteps model) := by
  have core := nested_markedCore generator model
  have finished : MarkedStep.Nested 3
      [.plain (.report (.finished (generator.summary model)))] := .plain fun _ => rfl
  unfold markedSteps
  cases generator.settings.regionToOpen with
  | none =>
    cases generator.settings.namespaceToOpen with
    | none => exact (core.weaken (by decide)).append finished
    | some name => exact ((nested_lines _).append core.block).append finished
  | some region =>
    have inside := ((nested_lines ("#region " ++ region)).append core).append
      (nested_lines "#endregion")
    cases generator.settings.namespaceToOpen with
    | none => exact (inside.weaken (by decide)).append finished
    | some name => exact ((nested_lines _).append inside.block).append finished

/-- A marked pass stays in range where the pass does. -/
theorem inRange_markedSteps {generator : Generator} {model : Model} {level : Level}
    (inside : generator.InRange model level) :
    MarkedStep.InRange level (generator.markedSteps model) := by
  rw [MarkedStep.InRange, map_step_markedSteps]
  exact inside

/-- Three levels are all that the blocks of a pass take: namespace, class and constructor. -/
theorem inRange_of_room (generator : Generator) (model : Model) {level : Level}
    (room : level.count + 3 ≤ Level.top.count) : generator.InRange model level := by
  have inside := (nested_markedSteps generator model).inRange room
  rwa [MarkedStep.InRange, map_step_markedSteps] at inside

/-- A pass from level zero stays in range. -/
theorem inRange_zero (generator : Generator) (model : Model) : generator.InRange model 0 :=
  inRange_of_room generator model (by decide)

/-- A pass ends at the level where it begins. -/
theorem endLevel_steps {generator : Generator} {model : Model} {level : Level}
    (inside : generator.InRange model level) :
    Step.endLevel level (generator.steps model) = level := by
  rw [← map_step_markedSteps]
  exact (nested_markedSteps generator model).balanced (inRange_markedSteps inside)

/-- A pass that has raised the highest level ends at level zero. -/
theorem endLevel_steps_of_not_inRange {generator : Generator} {model : Model} {level : Level}
    (beyond : ¬generator.InRange model level) :
    Step.endLevel level (generator.steps model) = 0 := by
  have outside : ¬MarkedStep.InRange level (generator.markedSteps model) := by
    rw [MarkedStep.InRange, map_step_markedSteps]
    exact beyond
  rw [← map_step_markedSteps]
  exact (nested_markedSteps generator model).stranded outside

/-- A second pass ends at the level where the first one has ended. -/
theorem endLevel_endLevel_steps (generator : Generator) (model : Model) (level : Level) :
    Step.endLevel (Step.endLevel level (generator.steps model)) (generator.steps model) =
      Step.endLevel level (generator.steps model) := by
  by_cases inside : generator.InRange model level
  · rw [endLevel_steps inside, endLevel_steps inside]
  · rw [endLevel_steps_of_not_inRange inside, endLevel_steps (inRange_zero generator model)]

end Generator

end MessageContracts
