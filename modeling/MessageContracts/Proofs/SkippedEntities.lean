import MessageContracts.Proofs.ReportedSteps
import MessageContracts.Proofs.Traversal

/-!
# Entities that are skipped

An entity without a name is reported and leaves no other trace. Without these entities a pass takes
the same steps, apart from the reports, does the same to every sink, and counts the same apart from
them.
-/

namespace MessageContracts

/-- The model without the entities that have no name. -/
def Model.withoutNameless (model : Model) : Model :=
  { model with entities := model.entities.filter (·.properName.isSome) }

/-- What an event is when there are no entities without a name, if it still is one. -/
def Event.withoutNameless : Event → Option Event
  | unnamedEntity => none
  | finished summary => some (finished { summary with skippedEntities := 0 })
  | event => some event

namespace Step

/-- What a step is when there are no entities without a name, if it still is one. -/
def withoutNameless : Step → Option Step
  | report event => event.withoutNameless.map report
  | step => some step

variable {σ : Type} [LineSink σ]

/-- A step that stays does the same to a sink, and reports what its event then is. -/
theorem perform_of_withoutNameless {step later : Step} (kept : step.withoutNameless = some later) :
    later.perform = step.perform (σ := σ) ∧
      later.events = step.events.filterMap Event.withoutNameless := by
  cases step with
  | report event =>
    obtain ⟨changed, found, rfl⟩ := Option.map_eq_some_iff.mp kept
    refine ⟨rfl, ?_⟩
    rw [events, events, List.filterMap_cons_some found, List.filterMap_nil]
  | text content => cases kept; exact ⟨rfl, rfl⟩
  | lines content => cases kept; exact ⟨rfl, rfl⟩
  | endLine => cases kept; exact ⟨rfl, rfl⟩
  | indent => cases kept; exact ⟨rfl, rfl⟩
  | dedent => cases kept; exact ⟨rfl, rfl⟩

/-- Only the report of an entity without a name goes. -/
theorem eq_of_withoutNameless_eq_none {step : Step} (dropped : step.withoutNameless = none) :
    step = report .unnamedEntity := by
  cases step with
  | report event =>
    have gone : event.withoutNameless = none := Option.map_eq_none_iff.mp dropped
    cases event with
    | unnamedEntity => rfl
    | contract name members modifiers => cases gone
    | interface entity declaration messages => cases gone
    | finished summary => cases gone
  | text content => cases dropped
  | lines content => cases dropped
  | endLine => cases dropped
  | indent => cases dropped
  | dedent => cases dropped

/-- What steps do to a sink does not depend on reports, and what they report changes with them. -/
theorem performAll_withoutNameless (steps : List Step) (sink : σ) :
    performAll (steps.filterMap withoutNameless) sink =
      ⟨(performAll steps sink).sink,
        (performAll steps sink).events.filterMap Event.withoutNameless,
        (performAll steps sink).fault⟩ := by
  induction steps generalizing sink with
  | nil => rfl
  | cons step rest ih =>
    cases kept : step.withoutNameless with
    | none =>
      obtain rfl := eq_of_withoutNameless_eq_none kept
      rw [List.filterMap_cons_none kept, ih]
      rfl
    | some later =>
      obtain ⟨same, reported⟩ := perform_of_withoutNameless (σ := σ) kept
      rw [List.filterMap_cons_some kept, performAll, performAll, same, reported]
      cases step.perform sink with
      | error fault stopped => rfl
      | ok _ reached =>
        dsimp only
        rw [ih, List.filterMap_append]

/-- Steps that stay as they are when there are no entities without a name. -/
def Kept (steps : List Step) : Prop := steps.filterMap withoutNameless = steps

namespace Kept

/-- Steps one after the other. -/
theorem append {first second : List Step} (head : Kept first) (tail : Kept second) :
    Kept (first ++ second) := by
  rw [Kept, List.filterMap_append, head, tail]

/-- Steps for every item of a list. -/
theorem flatMap {α : Type} {items : List α} {stepsOf : α → List Step}
    (each : ∀ item, Kept (stepsOf item)) : Kept (items.flatMap stepsOf) := by
  rw [Kept, List.filterMap_flatMap]
  exact List.flatMap_congr fun item _ => each item

/-- Steps that report nothing. -/
theorem of_quiet {steps : List Step} (quiet : Quiet steps) : Kept steps := by
  induction steps with
  | nil => rfl
  | cons step rest ih =>
    obtain ⟨silent, others⟩ := List.append_eq_nil_iff.mp quiet
    have same : step.withoutNameless = some step := by
      cases step with
      | report event => cases silent
      | _ => rfl
    rw [Kept, List.filterMap_cons_some same, ih others]

end Kept

end Step

namespace Generator

open Step

/-- A class stays as it is. -/
theorem kept_contractSteps (generator : Generator) (contract : Message) :
    Kept (generator.contractSteps contract) := by
  have reported (name : String) (members modifiers : Nat) :
      Kept [.report (.contract name members modifiers)] := rfl
  exact (reported _ _ _).append (.of_quiet (quiet_class generator contract))

/-- An interface stays as it is. -/
theorem kept_interfaceSteps (generator : Generator) (name : String) (entity : Entity)
    (rule : InterfaceRule) : Kept (generator.interfaceSteps name entity rule) := by
  have reported (name declaration : String) (messages : Nat) :
      Kept [.report (.interface name declaration messages)] := rfl
  rw [interfaceSteps]
  dsimp only
  split
  · rfl
  · exact (reported _ _ _).append (.of_quiet (quiet_interface generator _ _))

/-- The interfaces of the entities that have a name are those of all entities, without the reports
of the skipped ones. -/
theorem filterMap_flatMap_entitySteps (generator : Generator) (entities : List Entity) :
    (entities.flatMap generator.entitySteps).filterMap withoutNameless =
      (entities.filter (·.properName.isSome)).flatMap generator.entitySteps := by
  induction entities with
  | nil => rfl
  | cons entity rest ih =>
    rw [List.flatMap_cons, List.filterMap_append, ih, List.filter_cons]
    cases proper : entity.properName with
    | none =>
      have skipped : generator.entitySteps entity = [.report .unnamedEntity] := by
        rw [entitySteps, proper]
      rw [skipped]
      rfl
    | some name =>
      have kept : Kept (generator.entitySteps entity) := by
        rw [entitySteps, proper]
        exact .flatMap fun rule => kept_interfaceSteps generator name entity rule
      rw [kept]
      simp

/-- An entity without a name has no interfaces to count. -/
theorem sum_interfaceCount_named (generator : Generator) (entities : List Entity) :
    ((entities.filter (·.properName.isSome)).map generator.interfaceCount).foldr (· + ·) 0 =
      (entities.map generator.interfaceCount).foldr (· + ·) 0 := by
  induction entities with
  | nil => rfl
  | cons entity rest ih =>
    cases proper : entity.properName with
    | none =>
      have nothing : generator.interfaceCount entity = 0 := by rw [interfaceCount, proper]
      simp [proper, nothing, ih]
    | some name => simp [proper, ih]

/-- Without the skipped entities a model is summed up in the same way, apart from their number. -/
theorem summary_withoutNameless (generator : Generator) (model : Model) :
    generator.summary model.withoutNameless =
      { generator.summary model with skippedEntities := 0 } := by
  have nameless : (model.entities.filter (·.properName.isSome)).countP
      (·.properName.isNone) = 0 := by
    rw [List.countP_eq_zero]
    intro entity listed
    obtain ⟨-, named⟩ := List.mem_filter.mp listed
    simpa [Option.isSome_iff_ne_none] using named
  rw [summary_eq, summary_eq, Model.withoutNameless, sum_interfaceCount_named, nameless]

/-- Without the skipped entities a pass takes the same steps, apart from the reports of them. -/
theorem steps_withoutNameless (generator : Generator) (model : Model) :
    generator.steps model.withoutNameless =
      (generator.steps model).filterMap withoutNameless := by
  have contracts : Kept (model.contracts.flatMap generator.contractSteps) :=
    .flatMap fun contract => kept_contractSteps generator contract
  have core : (generator.coreSteps model).filterMap withoutNameless =
      generator.coreSteps model.withoutNameless := by
    rw [coreSteps, List.filterMap_append, contracts, filterMap_flatMap_entitySteps]
    rfl
  obtain ⟨opening, closing⟩ := quiet_wrappers generator.settings
  rw [steps_eq, steps_eq, inNamespace_inRegion, inNamespace_inRegion, List.filterMap_append,
    List.filterMap_append, List.filterMap_append, Kept.of_quiet opening, Kept.of_quiet closing,
    core, summary_withoutNameless]
  rfl

/-- Without the skipped entities a pass does the same to every sink. -/
theorem generate_withoutNameless {σ : Type} [LineSink σ] (generator : Generator) (model : Model)
    (sink : σ) :
    generator.generate model.withoutNameless sink =
      let pass := generator.generate model sink
      ⟨pass.sink, pass.events.filterMap Event.withoutNameless,
        pass.result.map fun summary => { summary with skippedEntities := 0 }⟩ := by
  have performed := performAll_withoutNameless (generator.steps model) sink
  rw [← steps_withoutNameless] at performed
  rw [generate, performed, summary_withoutNameless, generate]
  cases (Step.performAll (generator.steps model) sink).fault with
  | none => rfl
  | some fault => rfl

end Generator

end MessageContracts
