import MessageContracts.Proofs.ReturnedSteps
import MessageContracts.Proofs.WatchedSink

/-!
# A pass does not depend on the style of line breaks

A step whose text has no carriage return does to every sink what it does with carriage returns in
front of the line feeds, because its physical lines are the same. No step of a pass has a carriage
return when neither the settings nor the model have any, so that the style in which their lines are
broken shows in nothing that a sink receives.
-/

namespace MessageContracts

open Text Generator

namespace Step

/-- A step whose text has no carriage return. -/
def ReturnFree : Step → Prop
  | text content => Text.ReturnFree content
  | lines content => Text.ReturnFree content
  | _ => True

variable {σ : Type} [LineSink σ]

/-- Carriage returns change nothing about what a step does to a sink. -/
theorem perform_withReturns {step : Step} (free : step.ReturnFree) :
    step.withReturns.perform = step.perform (σ := σ) := by
  cases step with
  | text content =>
    rw [withReturns, perform, perform, LineSink.putText, lines_withReturns free, LineSink.putText]
  | lines content =>
    rw [withReturns, perform, perform, LineSink.putLines, lines_withReturns free, LineSink.putLines]
  | endLine => rfl
  | indent => rfl
  | dedent => rfl
  | report event => rfl

/-- The events of a step with carriage returns are those of the step, with theirs. -/
theorem events_withReturns (step : Step) :
    step.withReturns.events = step.events.map Event.withReturns := by
  cases step <;> rfl

/-- Steps with carriage returns do to a sink what the steps do, and report accordingly. -/
theorem performAll_map_withReturns {steps : List Step} (free : ∀ step ∈ steps, step.ReturnFree)
    (sink : σ) :
    performAll (steps.map withReturns) sink =
      ⟨(performAll steps sink).sink, (performAll steps sink).events.map Event.withReturns,
        (performAll steps sink).fault⟩ := by
  induction steps generalizing sink with
  | nil => rfl
  | cons step rest ih =>
    obtain ⟨here, later⟩ := List.forall_mem_cons.mp free
    rw [List.map_cons, performAll, performAll, perform_withReturns here]
    cases step.perform sink with
    | error fault stopped => rfl
    | ok _ reached =>
      dsimp only
      rw [ih later reached, events_withReturns, List.map_append]

end Step

namespace Generator

section Free

variable {settings : Settings} (free : settings.ReturnFree)

/-- The steps of a block are free of carriage returns when those of its body are. -/
theorem returnFree_block {body : List Step} (each : ∀ step ∈ body, step.ReturnFree) :
    ∀ step ∈ block body, step.ReturnFree := by
  have opening : (Step.lines "\x7b").ReturnFree := (by decide : Text.ReturnFree "\x7b")
  have closing : (Step.lines "\x7d").ReturnFree := (by decide : Text.ReturnFree "\x7d")
  simp only [block, List.forall_mem_append, List.forall_mem_cons, List.not_mem_nil, false_implies,
    implies_true, and_true]
  exact ⟨⟨⟨opening, trivial⟩, each⟩, trivial, closing⟩

/-- The list of interfaces is free of carriage returns when the modifiers are. -/
theorem returnFree_baseSteps {modifiers : List Modifier}
    (each : ∀ modifier ∈ modifiers, Text.ReturnFree modifier.interface) :
    ∀ step ∈ baseSteps modifiers, step.ReturnFree := by
  have colon : Text.ReturnFree " : " := by decide
  have between : Text.ReturnFree ", " := by decide
  intro step inside
  rw [baseSteps] at inside
  split at inside
  · exact absurd inside List.not_mem_nil
  · rw [List.mem_singleton.mp inside]
    exact colon.append (between.intercalate (List.forall_mem_map.mpr each))

/-- A template of one argument is rendered without carriage returns. -/
theorem returnFree_render_one {template : Template 1} (source : Text.ReturnFree template.source)
    {argument : String} (none_inside : Text.ReturnFree argument) :
    Text.ReturnFree (template.render #v[argument]) :=
  Template.returnFree_render (by decide) source fun index => match index with
    | 0 => none_inside

include free

/-- A field declaration is free of carriage returns when the member is. -/
theorem returnFree_memberSteps {member : Member} (type : Text.ReturnFree member.type)
    (name : Text.ReturnFree member.name) (position : Nat) :
    ∀ step ∈ (ofSettings settings).memberSteps member position, step.ReturnFree := by
  intro step inside
  rw [List.mem_singleton.mp inside]
  refine Template.returnFree_render (by decide) free.member fun index => ?_
  match index with
  | 0 => exact not_mem_repr (by decide) position
  | 1 => exact type
  | 2 => exact Spelling.returnFree_pascalCase name

/-- The field declarations are free of carriage returns when the message is. -/
theorem returnFree_fieldSteps {contract : Message} (message : contract.ReturnFree) :
    ∀ step ∈ (contract.members.zipIdx 1).flatMap
      (fun (member, position) => (ofSettings settings).memberSteps member position),
        step.ReturnFree := by
  intro step inside
  obtain ⟨place, listed, inside⟩ := List.mem_flatMap.mp inside
  have member := List.fst_mem_of_mem_zipIdx listed
  exact returnFree_memberSteps free (message.types place.1 member) (message.members place.1 member)
    place.2 step inside

/-- The body of a class is free of carriage returns when the message is. -/
theorem returnFree_bodySteps {contract : Message} (message : contract.ReturnFree) :
    ∀ step ∈ (ofSettings settings).bodySteps contract, step.ReturnFree := by
  have opening : Text.ReturnFree "public " := by decide
  have bracket : Text.ReturnFree " (" := by decide
  have between : Text.ReturnFree ", " := by decide
  have space : Text.ReturnFree " " := by decide
  have equals : Text.ReturnFree " = " := by decide
  have semicolon : Text.ReturnFree ";" := by decide
  have closing : Text.ReturnFree ")" := by decide
  have fields := returnFree_fieldSteps free message
  have parameters : ∀ content ∈ contract.members.map (ofSettings settings).parameterText,
      Text.ReturnFree content := by
    intro content inside
    obtain ⟨member, listed, rfl⟩ := List.mem_map.mp inside
    rw [parameterText, ofSettings_parameter]
    exact ((message.types member listed).append space).append
      (Spelling.returnFree_parameterName (message.members member listed))
  have assignments : ∀ step ∈ contract.members.flatMap (ofSettings settings).assignmentSteps,
      step.ReturnFree := by
    intro step inside
    obtain ⟨member, listed, inside⟩ := List.mem_flatMap.mp inside
    rw [List.mem_singleton.mp inside, ofSettings_member, ofSettings_parameter, Step.ReturnFree]
    exact (((Spelling.returnFree_pascalCase (message.members member listed)).append equals).append
      (Spelling.returnFree_parameterName (message.members member listed))).append semicolon
  rw [bodySteps]
  split
  · exact List.forall_mem_nil _
  · simp only [List.forall_mem_append, List.forall_mem_cons]
    exact ⟨⟨fields, returnFree_render_one free.privateConstructor message.name,
      (opening.append message.name).append bracket, between.intercalate parameters, closing,
      List.forall_mem_nil _⟩, returnFree_block assignments⟩

/-- A class is free of carriage returns when the message is. -/
theorem returnFree_contractSteps {contract : Message} (message : contract.ReturnFree) :
    ∀ step ∈ (ofSettings settings).contractSteps contract, step.ReturnFree := by
  simp only [contractSteps, List.forall_mem_append, List.forall_mem_cons]
  exact ⟨⟨⟨⟨trivial, returnFree_render_one free.classHeader message.name, List.forall_mem_nil _⟩,
    returnFree_baseSteps message.interfaces⟩, trivial, List.forall_mem_nil _⟩,
    returnFree_block (returnFree_bodySteps free message)⟩

/-- An interface is free of carriage returns when its rule, its name and the messages are. -/
theorem returnFree_interfaceSteps {name : String} (nameFree : Text.ReturnFree name)
    {entity : Entity} (messages : ∀ message ∈ entity.messages, message.ReturnFree)
    {rule : InterfaceRule} (declared : Text.ReturnFree rule.name.source) :
    ∀ step ∈ (ofSettings settings).interfaceSteps name entity rule, step.ReturnFree := by
  have lines : ∀ step ∈ (joining rule entity).map (fun message => Step.lines
      (settings.interfaceMember.render #v[message.name])), step.ReturnFree := by
    intro step inside
    obtain ⟨message, joins, rfl⟩ := List.mem_map.mp inside
    exact returnFree_render_one free.interfaceMember
      (messages message (List.mem_filter.mp joins).1).name
  rw [interfaceSteps]
  dsimp only
  split
  · exact List.forall_mem_nil _
  · simp only [List.forall_mem_append, List.forall_mem_cons]
    exact ⟨⟨trivial, trivial, returnFree_render_one declared nameFree, List.forall_mem_nil _⟩,
      returnFree_block lines⟩

/-- The interfaces of an entity are free of carriage returns when its name and its messages are. -/
theorem returnFree_entitySteps {entity : Entity}
    (named : ∀ name ∈ entity.name, Text.ReturnFree name)
    (messages : ∀ message ∈ entity.messages, message.ReturnFree) :
    ∀ step ∈ (ofSettings settings).entitySteps entity, step.ReturnFree := by
  rw [entitySteps]
  cases proper : entity.properName with
  | none => exact List.forall_mem_singleton.mpr trivial
  | some name =>
    have nameFree := named name (Option.filter_eq_some_iff.mp proper).1
    intro step inside
    obtain ⟨rule, listed, inside⟩ := List.mem_flatMap.mp inside
    exact returnFree_interfaceSteps free nameFree messages (free.interfaces rule listed) step inside

/-- The classes and interfaces are free of carriage returns when the model is. -/
theorem returnFree_coreSteps {model : Model} (modelFree : model.ReturnFree) :
    ∀ step ∈ (ofSettings settings).coreSteps model, step.ReturnFree := by
  rw [coreSteps, List.forall_mem_append]
  constructor
  · intro step inside
    obtain ⟨contract, listed, inside⟩ := List.mem_flatMap.mp inside
    exact returnFree_contractSteps free (modelFree.contracts contract listed) step inside
  · intro step inside
    obtain ⟨entity, listed, inside⟩ := List.mem_flatMap.mp inside
    exact returnFree_entitySteps free (modelFree.names entity listed)
      (modelFree.messages entity listed) step inside

/-- A region around steps without carriage returns has none. -/
theorem returnFree_inRegion {body : List Step} (each : ∀ step ∈ body, step.ReturnFree) :
    ∀ step ∈ inRegion settings body, step.ReturnFree := by
  have opening : Text.ReturnFree "#region " := by decide
  have closing : Text.ReturnFree "#endregion" := by decide
  rw [inRegion]
  cases opened : settings.regionToOpen with
  | none => exact each
  | some region =>
    have name := free.region region (Option.filter_eq_some_iff.mp opened).1
    simp only [List.forall_mem_append, List.forall_mem_cons]
    exact ⟨⟨⟨opening.append name, List.forall_mem_nil _⟩, each⟩, closing, List.forall_mem_nil _⟩

/-- A namespace around steps without carriage returns has none. -/
theorem returnFree_inNamespace {body : List Step} (each : ∀ step ∈ body, step.ReturnFree) :
    ∀ step ∈ inNamespace settings body, step.ReturnFree := by
  have opening : Text.ReturnFree "namespace " := by decide
  rw [inNamespace]
  cases opened : settings.namespaceToOpen with
  | none => exact each
  | some namespaceName =>
    have name := free.nameSpace namespaceName (Option.filter_eq_some_iff.mp opened).1
    simp only [List.forall_mem_append, List.forall_mem_cons]
    exact ⟨⟨opening.append name, List.forall_mem_nil _⟩, returnFree_block each⟩

/-- A pass is free of carriage returns when the settings and the model are. -/
theorem returnFree_steps {model : Model} (modelFree : model.ReturnFree) :
    ∀ step ∈ (ofSettings settings).steps model, step.ReturnFree := by
  rw [steps_eq, List.forall_mem_append]
  have inside := returnFree_inRegion free (returnFree_coreSteps free modelFree)
  exact ⟨returnFree_inNamespace free inside,
    List.forall_mem_singleton.mpr trivial⟩

end Free

/-- Settings whose templates still compile with carriage returns, and a model with carriage returns,
make a pass do to every sink what it does without them, with the same result. -/
theorem generate_withReturns (settings : Settings) (free : settings.ReturnFree) (model : Model)
    (modelFree : model.ReturnFree) :
    ∃ returned, settings.withReturns = .ok returned ∧
      ∀ (σ : Type) [LineSink σ] (sink : σ),
        let pass := (ofSettings settings).generate model sink
        let other := (ofSettings returned).generate model.withReturns sink
        let calls := ((ofSettings settings).generate model (Watched.start sink)).sink.attempts
        let otherCalls :=
          ((ofSettings returned).generate model.withReturns (Watched.start sink)).sink.attempts
        otherCalls = calls ∧ other.sink = pass.sink ∧ other.result = pass.result := by
  obtain ⟨returned, compiled, change⟩ := settings.exists_withReturns
  refine ⟨returned, compiled, fun σ _ sink => ?_⟩
  have same (τ : Type) [LineSink τ] (start : τ) :
      ((ofSettings returned).generate model.withReturns start).sink =
        ((ofSettings settings).generate model start).sink ∧
      ((ofSettings returned).generate model.withReturns start).result =
        ((ofSettings settings).generate model start).result := by
    rw [generate, generate, steps_withReturns change, summary_withReturns change,
      Step.performAll_map_withReturns (returnFree_steps free modelFree)]
    exact ⟨rfl, rfl⟩
  exact ⟨congrArg Watched.attempts (same (Watched σ) (Watched.start sink)).1, same σ sink⟩

/-- A model whose texts run over several lines. -/
def brokenModel : Model where
  contracts := [⟨"Opened\nAgain", [⟨"Map<int,\n int>", "by\nday"⟩], [⟨"?", "ICommand\n"⟩]⟩]
  entities := [⟨some "Account\n", [⟨"Opened\nAgain", [], [⟨"?", "ICommand\n"⟩]⟩]⟩]

/-- With the stock settings, whose templates hold line feeds, a recorder receives the same calls of
that model with carriage returns as without. -/
theorem generate_withReturns_broken :
    Settings.stock.ReturnFree ∧ brokenModel.ReturnFree ∧
      ∃ returned, Settings.stock.withReturns = .ok returned ∧
        let log := CallLog.create 0 (some 20) .tooSlow
        ((ofSettings returned).generate brokenModel.withReturns log).sink.calls =
          ((ofSettings .stock).generate brokenModel log).sink.calls := by
  have free : Settings.stock.ReturnFree := by constructor <;> decide +kernel
  have message (members : List Member) (types : ∀ member ∈ members, Text.ReturnFree member.type)
      (names : ∀ member ∈ members, Text.ReturnFree member.name) :
      Message.ReturnFree ⟨"Opened\nAgain", members, [⟨"?", "ICommand\n"⟩]⟩ :=
    ⟨(by decide +kernel : Text.ReturnFree "Opened\nAgain"), types, names,
      List.forall_mem_singleton.mpr (by decide +kernel : Text.ReturnFree "ICommand\n")⟩
  have contract := message [⟨"Map<int,\n int>", "by\nday"⟩] (by decide +kernel) (by decide +kernel)
  have command := message [] (List.forall_mem_nil _) (List.forall_mem_nil _)
  have modelFree : brokenModel.ReturnFree :=
    ⟨List.forall_mem_singleton.mpr contract, by decide +kernel,
      List.forall_mem_singleton.mpr (List.forall_mem_singleton.mpr command)⟩
  obtain ⟨returned, compiled, same⟩ := generate_withReturns .stock free brokenModel modelFree
  obtain ⟨-, sink, -⟩ := same CallLog (CallLog.create 0 (some 20) .tooSlow)
  exact ⟨free, modelFree, returned, compiled, congrArg CallLog.calls sink⟩

end Generator

end MessageContracts
