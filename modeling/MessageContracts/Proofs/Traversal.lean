import MessageContracts.Emission

/-!
# What the traversal of a model comes to

The steps and the counts of a pass accumulate while contracts and entities are traversed. Each item
adds steps and counts of its own, whatever came before it. So the whole is known from the items
alone: the steps are theirs one after the other, and the counts add up.
-/

namespace MessageContracts

namespace Summary

/-- What has been emitted before anything is. -/
def zero : Summary := ⟨0, 0, 0⟩

/-- What two passes have emitted together. -/
def add (first second : Summary) : Summary :=
  ⟨first.contracts + second.contracts, first.interfaces + second.interfaces,
    first.skippedEntities + second.skippedEntities⟩

/-- What some passes have emitted together. -/
def total (summaries : List Summary) : Summary := summaries.foldr add zero

/-- Nothing adds nothing. -/
theorem zero_add (summary : Summary) : zero.add summary = summary := by
  simp only [zero, add, Nat.zero_add]

/-- Nothing adds nothing at the end. -/
theorem add_zero (summary : Summary) : summary.add zero = summary := rfl

/-- Summaries are added up in any grouping. -/
theorem add_assoc (first second third : Summary) :
    (first.add second).add third = first.add (second.add third) := by
  simp only [add, Nat.add_assoc]

/-- One pass and then some others. -/
theorem total_cons (summary : Summary) (rest : List Summary) :
    total (summary :: rest) = summary.add (total rest) := rfl

/-- Passes in two groups. -/
theorem total_append (first second : List Summary) :
    total (first ++ second) = (total first).add (total second) := by
  induction first with
  | nil => exact (zero_add _).symm
  | cons summary rest ih =>
    rw [List.cons_append, total_cons, ih, total_cons, add_assoc]

end Summary

/-- From one point of a traversal to a later one, these steps and these counts are added. -/
structure Emission.Gains (earlier later : Emission) (steps : List Step) (counts : Summary) :
    Prop where
  /-- The steps go to the end. -/
  steps : later.steps.toList = earlier.steps.toList ++ steps
  /-- The counts are added. -/
  summary : later.summary = earlier.summary.add counts

/-- Items that each add steps and counts of their own add all of them. -/
theorem Emission.Gains.foldl {α : Type} {next : Emission → α → Emission}
    {stepsOf : α → List Step} {countsOf : α → Summary}
    (each : ∀ emission item, Gains emission (next emission item) (stepsOf item) (countsOf item))
    (items : List α) (emission : Emission) :
    Gains emission (items.foldl next emission) (items.flatMap stepsOf)
      (.total (items.map countsOf)) := by
  induction items generalizing emission with
  | nil => exact ⟨(List.append_nil _).symm, (Summary.add_zero _).symm⟩
  | cons item rest ih =>
    obtain ⟨steps, summary⟩ := ih (next emission item)
    constructor
    · rw [List.foldl_cons, steps, (each emission item).steps, List.append_assoc,
        List.flatMap_cons]
    · rw [List.foldl_cons, summary, (each emission item).summary, Summary.add_assoc]
      rfl

namespace Generator

variable (generator : Generator) (model : Model)

/-- All interfaces of an entity. -/
def entitySteps (generator : Generator) (entity : Entity) : List Step :=
  match entity.properName with
  | none => [.report .unnamedEntity]
  | some name => generator.settings.interfaces.flatMap (generator.interfaceSteps name entity)

/-- How many interfaces an entity gives rise to. -/
def interfaceCount (generator : Generator) (entity : Entity) : Nat :=
  match entity.properName with
  | none => 0
  | some _ => generator.settings.interfaces.countP fun rule => !(joining rule entity).isEmpty

/-- What an entity counts: its interfaces, or itself as skipped. -/
def entityCounts (generator : Generator) (entity : Entity) : Summary :=
  ⟨0, generator.interfaceCount entity, if entity.properName.isNone then 1 else 0⟩

/-- The classes and interfaces, without wrappers. -/
def coreSteps (generator : Generator) (model : Model) : List Step :=
  model.contracts.flatMap generator.contractSteps ++ model.entities.flatMap generator.entitySteps

/-- A contract adds its class. -/
theorem gains_addContract (emission : Emission) (contract : Message) :
    emission.Gains (generator.addContract emission contract) (generator.contractSteps contract)
      ⟨1, 0, 0⟩ :=
  ⟨Array.toList_appendList, rfl⟩

/-- A rule adds its interface, if some message joins it. -/
theorem gains_addInterface (name : String) (entity : Entity) (emission : Emission)
    (rule : InterfaceRule) :
    emission.Gains (generator.addInterface name entity emission rule)
      (generator.interfaceSteps name entity rule)
      ⟨0, if (joining rule entity).isEmpty then 0 else 1, 0⟩ := by
  rw [addInterface]
  by_cases unmatched : (joining rule entity).isEmpty = true
  · have nothing : generator.interfaceSteps name entity rule = [] := if_pos unmatched
    rw [if_pos unmatched, if_pos unmatched, nothing]
    exact ⟨(List.append_nil _).symm, (Summary.add_zero _).symm⟩
  · rw [if_neg unmatched, if_neg unmatched]
    exact ⟨Array.toList_appendList, rfl⟩

/-- The counts of rules are those of the rules that some message joins. -/
theorem total_interfaces (entity : Entity) (rules : List InterfaceRule) :
    Summary.total (rules.map fun rule =>
      ⟨0, if (joining rule entity).isEmpty then 0 else 1, 0⟩) =
        ⟨0, rules.countP fun rule => !(joining rule entity).isEmpty, 0⟩ := by
  induction rules with
  | nil => rfl
  | cons rule rest ih =>
    rw [List.map_cons, Summary.total_cons, ih, List.countP_cons]
    cases (joining rule entity).isEmpty <;> simp [Summary.add, Nat.add_comm]

/-- An entity adds its interfaces, or is skipped. -/
theorem gains_addEntity (emission : Emission) (entity : Entity) :
    emission.Gains (generator.addEntity emission entity) (generator.entitySteps entity)
      (generator.entityCounts entity) := by
  rw [addEntity, entitySteps, entityCounts, interfaceCount]
  cases entity.properName with
  | none => exact ⟨Array.toList_push, rfl⟩
  | some name =>
    have gains := Emission.Gains.foldl (generator.gains_addInterface name entity)
      generator.settings.interfaces emission
    rw [total_interfaces] at gains
    exact gains

/-- Contracts count as many classes. -/
theorem total_contracts (contracts : List Message) :
    Summary.total (contracts.map fun _ => ⟨1, 0, 0⟩) = ⟨contracts.length, 0, 0⟩ := by
  induction contracts with
  | nil => rfl
  | cons contract rest ih =>
    rw [List.map_cons, Summary.total_cons, ih]
    simp [Summary.add, Nat.add_comm]

/-- Entities count their interfaces, and those without a name. -/
theorem total_entities (entities : List Entity) :
    Summary.total (entities.map generator.entityCounts) =
      ⟨0, (entities.map generator.interfaceCount).foldr (· + ·) 0,
        entities.countP (·.properName.isNone)⟩ := by
  induction entities with
  | nil => rfl
  | cons entity rest ih =>
    rw [List.map_cons, Summary.total_cons, ih]
    simp [Summary.add, entityCounts, List.countP_cons, Nat.add_comm]

/-- A traversal takes the steps of the contracts and then those of the entities, and counts both. -/
theorem gains_emission : Emission.none.Gains (generator.emission model) (generator.coreSteps model)
    ⟨model.contracts.length, (model.entities.map generator.interfaceCount).foldr (· + ·) 0,
      model.entities.countP (·.properName.isNone)⟩ := by
  have classes := Emission.Gains.foldl generator.gains_addContract model.contracts .none
  have interfaces := Emission.Gains.foldl generator.gains_addEntity model.entities
    (model.contracts.foldl generator.addContract .none)
  rw [total_contracts] at classes
  rw [total_entities] at interfaces
  constructor
  · rw [emission, interfaces.steps, classes.steps, List.append_assoc]
    rfl
  · rw [emission, interfaces.summary, classes.summary, Summary.add_assoc]
    simp [Summary.add]

/-- A pass counts its contracts, the interfaces of all entities, and the entities without a name. -/
theorem summary_eq : generator.summary model =
    ⟨model.contracts.length, (model.entities.map generator.interfaceCount).foldr (· + ·) 0,
      model.entities.countP (·.properName.isNone)⟩ :=
  (generator.gains_emission model).summary.trans (Summary.zero_add _)

/-- A pass takes the steps of the contracts and entities inside the wrappers, and then reports its
counts. -/
theorem steps_eq : generator.steps model =
    inNamespace generator.settings (inRegion generator.settings (generator.coreSteps model))
      ++ [.report (.finished (generator.summary model))] := by
  have traversed : (generator.emission model).steps.toList = generator.coreSteps model :=
    (generator.gains_emission model).steps.trans (List.nil_append _)
  rw [steps, traversed]
  rfl

end Generator

end MessageContracts
