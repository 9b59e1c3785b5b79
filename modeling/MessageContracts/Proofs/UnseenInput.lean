import Mathlib.Data.List.Forall2
import MessageContracts.Proofs.SkippedEntities
import MessageContracts.Proofs.WatchedSink

/-!
# Input that is never emitted

A pass reads of a contract its name, its members and the interfaces of its modifiers; of an entity
its name and, unless it has none, the names of its messages and which rules each of them joins.
Models that agree on this much make a pass take the same steps, so that no sink can tell them
apart. The order and the repetition of tags belong to what is not read, and so does everything
about an entity without a name except that there is one.
-/

namespace MessageContracts

open Generator

/-- Contracts that agree on everything that their classes show. -/
structure Message.SameClass (contract other : Message) : Prop where
  /-- The names agree. -/
  name : contract.name = other.name
  /-- The members agree. -/
  members : contract.members = other.members
  /-- The interfaces of the modifiers agree, in order. -/
  interfaces : contract.modifiers.map (·.interface) = other.modifiers.map (·.interface)

/-- Messages that have the same name and join the same of some rules. -/
structure Message.SameJoining (rules : List InterfaceRule) (message other : Message) : Prop where
  /-- The names agree. -/
  name : message.name = other.name
  /-- Each rule finds one of its tags on both messages or on neither. -/
  joins : ∀ rule ∈ rules, message.carriesAny rule.tags = other.carriesAny rule.tags

/-- Messages that have the same name and the same tags, in whatever order and number. -/
structure Message.SameTags (message other : Message) : Prop where
  /-- The names agree. -/
  name : message.name = other.name
  /-- A tag on one message is on the other. -/
  tags : ∀ tag, tag ∈ message.modifiers.map (·.identifier) ↔
    tag ∈ other.modifiers.map (·.identifier)

/-- Entities that are both skipped, or have the same name and messages related in order. -/
inductive Entity.Alike (related : Message → Message → Prop) (entity other : Entity) : Prop where
  /-- Neither has a name to be emitted under. -/
  | skipped (nameless : entity.properName = none) (otherNameless : other.properName = none)
  /-- Both are emitted under one name. -/
  | named {name : String} (proper : entity.properName = some name)
    (otherProper : other.properName = some name)
    (messages : List.Forall₂ related entity.messages other.messages)

/-- Models whose contracts show the same and whose entities are alike, in order. -/
structure Model.Alike (related : Message → Message → Prop) (model other : Model) : Prop where
  /-- The contracts agree pairwise. -/
  contracts : List.Forall₂ Message.SameClass model.contracts other.contracts
  /-- The entities agree pairwise. -/
  entities : List.Forall₂ (Entity.Alike related) model.entities other.entities

/-- Rules with one declaration and the same tags, in whatever order and number. -/
structure InterfaceRule.SameTags (rule other : InterfaceRule) : Prop where
  /-- The declarations agree. -/
  name : rule.name = other.name
  /-- A tag of one rule is a tag of the other. -/
  tags : ∀ tag, tag ∈ rule.tags ↔ tag ∈ other.tags

/-- Whether a message carries a tag from a list depends on its tags and the list as sets alone. -/
theorem Message.carriesAny_congr {message other : Message} {tags others : List String}
    (same : ∀ tag, tag ∈ message.modifiers.map (·.identifier) ↔
      tag ∈ other.modifiers.map (·.identifier))
    (sameTags : ∀ tag, tag ∈ tags ↔ tag ∈ others) :
    message.carriesAny tags = other.carriesAny others := by
  have shared (message : Message) (tags : List String) : message.carriesAny tags = true ↔
      ∃ tag ∈ message.modifiers.map (·.identifier), tag ∈ tags := by
    simp [carriesAny]
  rw [Bool.eq_iff_iff, shared, shared]
  simp only [same, sameTags]

/-- Messages with the same tags join the same rules. -/
theorem Message.SameTags.sameJoining {message other : Message} (same : message.SameTags other)
    (rules : List InterfaceRule) : message.SameJoining rules other where
  name := same.name
  joins _ _ := carriesAny_congr same.tags fun _ => Iff.rfl

/-- Models that are alike by one relation of messages are alike by a weaker one. -/
theorem Model.Alike.imp {related weaker : Message → Message → Prop} {model other : Model}
    (alike : model.Alike related other)
    (implies : ∀ message other, related message other → weaker message other) :
    model.Alike weaker other where
  contracts := alike.contracts
  entities := alike.entities.imp fun entity other pair => by
    cases pair with
    | skipped nameless otherNameless => exact .skipped nameless otherNameless
    | named proper otherProper messages => exact .named proper otherProper (messages.imp implies)

/-- Related items give rise to the same steps. -/
theorem flatMap_eq_of_forall₂ {α β γ : Type} {related : α → β → Prop} {items : List α}
    {others : List β} {first : α → List γ} {second : β → List γ}
    (pairs : List.Forall₂ related items others)
    (same : ∀ item other, related item other → first item = second other) :
    items.flatMap first = others.flatMap second := by
  induction pairs with
  | nil => rfl
  | cons pair _ ih => rw [List.flatMap_cons, List.flatMap_cons, same _ _ pair, ih]

namespace Generator

/-- The class of a contract is written from what the class shows. -/
theorem contractSteps_eq_of_sameClass (generator : Generator) {contract other : Message}
    (same : contract.SameClass other) :
    generator.contractSteps contract = generator.contractSteps other := by
  have count : contract.modifiers.length = other.modifiers.length := by
    have lengths := congrArg List.length same.interfaces
    simpa using lengths
  have bases : baseSteps contract.modifiers = baseSteps other.modifiers := by
    have empty : contract.modifiers.isEmpty = other.modifiers.isEmpty := by
      rw [Bool.eq_iff_iff, List.isEmpty_iff_length_eq_zero, List.isEmpty_iff_length_eq_zero, count]
    rw [baseSteps, baseSteps, empty, same.interfaces]
  rw [contractSteps, contractSteps, bases, count, bodySteps, bodySteps, same.name, same.members]

/-- An interface is written from the declaration of its rule and the names of the messages that
join it. -/
theorem interfaceSteps_congr {generator other : Generator}
    (line : generator.settings.interfaceMember = other.settings.interfaceMember) (name : String)
    {entity otherEntity : Entity} {rule otherRule : InterfaceRule}
    (declaration : rule.name = otherRule.name)
    (messages : (joining rule entity).map (·.name) = (joining otherRule otherEntity).map (·.name)) :
    generator.interfaceSteps name entity rule =
      other.interfaceSteps name otherEntity otherRule := by
  have count : (joining rule entity).length = (joining otherRule otherEntity).length := by
    have lengths := congrArg List.length messages
    simpa using lengths
  have empty : (joining rule entity).isEmpty = (joining otherRule otherEntity).isEmpty := by
    rw [Bool.eq_iff_iff, List.isEmpty_iff_length_eq_zero, List.isEmpty_iff_length_eq_zero, count]
  have lines (generator : Generator) (messages : List Message) :
      messages.map (fun message => Step.lines
        (generator.settings.interfaceMember.render #v[message.name])) =
      (messages.map (·.name)).map fun name => Step.lines
        (generator.settings.interfaceMember.render #v[name]) := by
    rw [List.map_map]
    rfl
  rw [interfaceSteps, interfaceSteps]
  dsimp only
  rw [lines, lines, empty, count, declaration, messages, line]

/-- The messages that join a rule of both lists have the same names. -/
theorem map_name_joining {rules : List InterfaceRule} {rule : InterfaceRule} (listed : rule ∈ rules)
    {entity other : Entity}
    (messages : List.Forall₂ (Message.SameJoining rules) entity.messages other.messages) :
    (joining rule entity).map (·.name) = (joining rule other).map (·.name) := by
  rw [joining, joining]
  generalize entity.messages = row, other.messages = otherRow at messages ⊢
  induction messages with
  | nil => rfl
  | @cons message otherMessage rest others pair _ ih =>
    rw [List.filter_cons, List.filter_cons, pair.joins rule listed]
    cases otherMessage.carriesAny rule.tags with
    | false => exact ih
    | true =>
      simp only [if_true, List.map_cons, ih, pair.name]

/-- The interfaces of entities that are alike are the same. -/
theorem entitySteps_eq_of_alike (generator : Generator) {entity other : Entity}
    (alike : entity.Alike (Message.SameJoining generator.settings.interfaces) other) :
    generator.entitySteps entity = generator.entitySteps other := by
  cases alike with
  | skipped nameless otherNameless => rw [entitySteps, entitySteps, nameless, otherNameless]
  | @named name proper otherProper messages =>
    rw [entitySteps, entitySteps, proper, otherProper]
    exact List.flatMap_congr fun rule listed =>
      interfaceSteps_congr rfl name rfl (map_name_joining listed messages)

/-- Entities that are alike give rise to as many interfaces. -/
theorem interfaceCount_eq_of_alike (generator : Generator) {entity other : Entity}
    (alike : entity.Alike (Message.SameJoining generator.settings.interfaces) other) :
    generator.interfaceCount entity = generator.interfaceCount other := by
  cases alike with
  | skipped nameless otherNameless => rw [interfaceCount, interfaceCount, nameless, otherNameless]
  | named proper otherProper messages =>
    rw [interfaceCount, interfaceCount, proper, otherProper]
    refine List.countP_congr fun rule listed => ?_
    have names := map_name_joining listed messages
    have lengths := congrArg List.length names
    simp only [List.length_map] at lengths
    simp [← List.length_eq_zero_iff, lengths]

/-- Models that are alike are summed up in the same way. -/
theorem summary_eq_of_alike (generator : Generator) {model other : Model}
    (alike : model.Alike (Message.SameJoining generator.settings.interfaces) other) :
    generator.summary model = generator.summary other := by
  have skipped {entity other : Entity}
      (alike : entity.Alike (Message.SameJoining generator.settings.interfaces) other) :
      entity.properName.isNone = other.properName.isNone := by
    cases alike with
    | skipped nameless otherNameless => rw [nameless, otherNameless]
    | named proper otherProper messages => rw [proper, otherProper]
  have contracts := alike.contracts.length_eq
  have entities := alike.entities
  rw [summary_eq, summary_eq, contracts]
  generalize model.entities = row, other.entities = otherRow at entities ⊢
  induction entities with
  | nil => rfl
  | cons pair _ ih =>
    injection ih with _ interfaces nameless
    rw [List.map_cons, List.map_cons, List.foldr_cons, List.foldr_cons, List.countP_cons,
      List.countP_cons, interfaces, nameless, interfaceCount_eq_of_alike generator pair,
      skipped pair]

/-- Models that are alike make a pass take the same steps. -/
theorem steps_eq_of_alike (generator : Generator) {model other : Model}
    (alike : model.Alike (Message.SameJoining generator.settings.interfaces) other) :
    generator.steps model = generator.steps other := by
  have contracts := flatMap_eq_of_forall₂ alike.contracts fun _ _ pair =>
    contractSteps_eq_of_sameClass generator pair
  have entities := flatMap_eq_of_forall₂ alike.entities fun _ _ pair =>
    entitySteps_eq_of_alike generator pair
  have core : generator.coreSteps model = generator.coreSteps other := by
    rw [coreSteps, coreSteps, contracts, entities]
  rw [steps_eq, steps_eq, core, summary_eq_of_alike generator alike]

/-- Rules with the same tags are joined by the same messages. -/
theorem joining_eq_of_sameTags {rule other : InterfaceRule} (same : rule.SameTags other)
    (entity : Entity) : joining rule entity = joining other entity :=
  List.filter_congr fun _ _ => Message.carriesAny_congr (fun _ => Iff.rfl) same.tags

section Tags

variable {settings : Settings} {rules : List InterfaceRule}
variable (same : List.Forall₂ InterfaceRule.SameTags settings.interfaces rules)
variable (spelling : SpellingStyle)
include same

/-- The interfaces of an entity do not depend on the order and number of the tags of a rule. -/
theorem entitySteps_eq_of_sameTags (entity : Entity) :
    entitySteps ⟨settings, spelling⟩ entity =
      entitySteps ⟨{ settings with interfaces := rules }, spelling⟩ entity := by
  rw [entitySteps, entitySteps]
  cases entity.properName with
  | none => rfl
  | some name =>
    exact flatMap_eq_of_forall₂ same fun rule other pair =>
      interfaceSteps_congr rfl name pair.name (by rw [joining_eq_of_sameTags pair])

/-- Neither does the number of interfaces. -/
theorem interfaceCount_eq_of_sameTags (entity : Entity) :
    interfaceCount ⟨settings, spelling⟩ entity =
      interfaceCount ⟨{ settings with interfaces := rules }, spelling⟩ entity := by
  rw [interfaceCount, interfaceCount]
  cases entity.properName with
  | none => rfl
  | some name =>
    change settings.interfaces.countP _ = rules.countP _
    generalize settings.interfaces = row at same
    induction same with
    | nil => rfl
    | cons pair _ ih => rw [List.countP_cons, List.countP_cons, ih, joining_eq_of_sameTags pair]

/-- A pass takes the same steps whatever the order and number of the tags of a rule. -/
theorem steps_eq_of_sameTags (model : Model) :
    steps ⟨settings, spelling⟩ model =
      steps ⟨{ settings with interfaces := rules }, spelling⟩ model := by
  have core : coreSteps ⟨settings, spelling⟩ model =
      coreSteps ⟨{ settings with interfaces := rules }, spelling⟩ model := by
    rw [coreSteps, coreSteps]
    congr 1
    exact List.flatMap_congr fun entity _ => entitySteps_eq_of_sameTags same spelling entity
  have counts : model.entities.map (interfaceCount ⟨settings, spelling⟩) =
      model.entities.map (interfaceCount ⟨{ settings with interfaces := rules }, spelling⟩) :=
    List.map_congr_left fun entity _ => interfaceCount_eq_of_sameTags same spelling entity
  have summed : summary ⟨settings, spelling⟩ model =
      summary ⟨{ settings with interfaces := rules }, spelling⟩ model := by
    rw [summary_eq, summary_eq, counts]
  rw [steps_eq, steps_eq, core, summed]
  rfl

end Tags

/-- Two passes that no sink and no caller tells apart: the same calls are made of every sink, with
the same texts at the same levels, and the sink, its level, the events and the result afterwards
are the same. -/
def SamePass (generator : Generator) (model : Model) (other : Generator) (otherModel : Model) :
    Prop :=
  ∀ (σ : Type) [LineSink σ] (sink : σ),
    let pass := generator.generate model sink
    let otherPass := other.generate otherModel sink
    (other.generate otherModel (Watched.start sink)).sink.attempts =
        (generator.generate model (Watched.start sink)).sink.attempts ∧
      otherPass.sink = pass.sink ∧ LineSink.level otherPass.sink = LineSink.level pass.sink ∧
      otherPass.events = pass.events ∧ otherPass.result = pass.result

/-- Passes of the same steps are the same on every sink. -/
theorem samePass_of_steps_eq {generator other : Generator} {model otherModel : Model}
    (same : generator.steps model = other.steps otherModel) :
    SamePass generator model other otherModel := by
  have reported := congrArg List.getLast? same
  rw [steps_eq, steps_eq, List.getLast?_append, List.getLast?_append, List.getLast?_singleton,
    List.getLast?_singleton, Option.some_or, Option.some_or] at reported
  injection reported with reported
  injection reported with reported
  injection reported with summed
  have pass (σ : Type) [LineSink σ] (sink : σ) :
      other.generate otherModel sink = generator.generate model sink := by
    rw [generate, generate, same, summed]
  intro σ _ sink
  dsimp only
  rw [pass, pass]
  exact ⟨rfl, rfl, rfl, rfl, rfl⟩

/-- A pass does not depend on what it does not emit. Models whose contracts show the same and whose
entities have the same names, with messages that have the same names and join the same rules, are
passed over in the same way by every sink, also one that refuses calls. In particular nothing
depends on the order and number of tags, of a rule or of an entity's message, nor on what else a
message of an entity holds, nor on the tags of contracts, nor on anything in an entity that is
skipped. Without the skipped entities only the number of them changes, and the reports of them are
missing. -/
theorem generate_ignores_unseen (settings : Settings) {rules : List InterfaceRule}
    (sameTags : List.Forall₂ InterfaceRule.SameTags settings.interfaces rules)
    (spelling : SpellingStyle) (model : Model) {other : Model}
    (alike : model.Alike (Message.SameJoining settings.interfaces) other) :
    let generator : Generator := ⟨settings, spelling⟩
    let retagged : Generator := ⟨{ settings with interfaces := rules }, spelling⟩
    SamePass generator model generator other ∧
    SamePass generator model retagged other ∧
    (∀ changed, model.Alike Message.SameTags changed →
      SamePass generator model retagged changed) ∧
    ∀ (σ : Type) [LineSink σ] (sink : σ),
      let pass := generator.generate model sink
      let without := generator.generate model.withoutNameless sink
      (generator.generate model.withoutNameless (Watched.start sink)).sink.attempts =
          (generator.generate model (Watched.start sink)).sink.attempts ∧
        without.sink = pass.sink ∧
        without.result = pass.result.map (fun summary => { summary with skippedEntities := 0 }) ∧
        without.events = pass.events.filterMap Event.withoutNameless := by
  intro generator retagged
  have same {changed : Model} (alike : model.Alike (Message.SameJoining settings.interfaces)
      changed) : generator.steps model = generator.steps changed :=
    steps_eq_of_alike generator alike
  have retag (model : Model) : generator.steps model = retagged.steps model :=
    steps_eq_of_sameTags sameTags spelling model
  refine ⟨samePass_of_steps_eq (same alike),
    samePass_of_steps_eq ((same alike).trans (retag other)), fun changed sameMessages => ?_,
    fun σ _ sink => ?_⟩
  · have weaker := sameMessages.imp fun _ _ pair => pair.sameJoining settings.interfaces
    exact samePass_of_steps_eq ((same weaker).trans (retag changed))
  · dsimp only
    rw [generate_withoutNameless, generate_withoutNameless]
    exact ⟨rfl, rfl, rfl, rfl⟩

/-- An entity whose message has two tags, after an entity that is skipped. -/
def twoTagModel : Model where
  contracts := [⟨"Opened", [⟨"int", "day"⟩], [⟨"?", "ICommand"⟩]⟩]
  entities := [⟨some "null", [⟨"Lost", [], [⟨"?", ""⟩]⟩]⟩,
    ⟨some "Account", [⟨"Opened", [⟨"int", "day"⟩], [⟨"!", "IEvent"⟩, ⟨"?", "ICommand"⟩]⟩]⟩]

/-- The same entity with its tags in another order and one of them twice, after an entity without
a name and with nothing in it. -/
def shuffledModel : Model where
  contracts := [⟨"Opened", [⟨"int", "day"⟩], [⟨"", "ICommand"⟩]⟩]
  entities := [⟨none, []⟩,
    ⟨some "Account", [⟨"Opened", [], [⟨"?", ""⟩, ⟨"!", "IEvent"⟩, ⟨"?", ""⟩]⟩]⟩]

/-- With a tag of the first stock rule given twice, no sink tells the two models apart. -/
theorem generate_ignores_unseen_retagged :
    ∃ rules, rules ≠ Settings.stock.interfaces ∧ twoTagModel ≠ shuffledModel ∧
      List.Forall₂ InterfaceRule.SameTags Settings.stock.interfaces rules ∧
      twoTagModel.Alike (Message.SameJoining Settings.stock.interfaces) shuffledModel ∧
      SamePass (ofSettings .stock) twoTagModel
        ⟨{ Settings.stock with interfaces := rules }, Spelling.csharp⟩ shuffledModel := by
  have opened : Message.SameTags
      ⟨"Opened", [⟨"int", "day"⟩], [⟨"!", "IEvent"⟩, ⟨"?", "ICommand"⟩]⟩
      ⟨"Opened", [], [⟨"?", ""⟩, ⟨"!", "IEvent"⟩, ⟨"?", ""⟩]⟩ := by
    refine ⟨rfl, fun tag => ?_⟩
    simp only [List.map_cons, List.map_nil, List.mem_cons, List.not_mem_nil, or_false]
    grind
  have alike : twoTagModel.Alike (Message.SameJoining Settings.stock.interfaces) shuffledModel :=
    ⟨.cons ⟨rfl, rfl, rfl⟩ .nil,
      .cons (.skipped rfl rfl) (.cons (.named rfl rfl (.cons (opened.sameJoining _) .nil)) .nil)⟩
  have sameTags : List.Forall₂ InterfaceRule.SameTags Settings.stock.interfaces
      (Settings.stock.interfaces.map fun rule => ⟨rule.name, rule.tags ++ rule.tags⟩) :=
    List.forall₂_map_right_iff.mpr (List.forall₂_same.mpr fun rule _ => ⟨rfl, by simp⟩)
  obtain ⟨-, same, -⟩ := generate_ignores_unseen .stock sameTags Spelling.csharp twoTagModel alike
  exact ⟨_, by decide +kernel, by decide, sameTags, alike, same⟩

end Generator

end MessageContracts
