import MessageContracts.Proofs.EmptyUnits
import MessageContracts.Proofs.LaidSteps
import MessageContracts.Proofs.MarkedPass

/-!
# The generated source is its outline

Every part of a pass lays out the part of the outline that stands for it: fields and assignments by
induction on the members, classes and interfaces from their parts, the wrappers around them last.
The bytes of a pass that succeeds are therefore those of the outline, whatever the templates and
the model hold. That ends where a pass would raise the highest level: it has then written a line
behind all the indent that a level can count. Passes that run out of room are cut elsewhere.
-/

namespace MessageContracts.Generator

open Text Outline

/-- The fields are laid out in order, and each position is the one before it and one. -/
theorem lays_fields (generator : Generator) (level : Level) (position : Nat)
    (members : List Member) :
    Lays ((members.zipIdx position).flatMap fun (member, position) =>
        generator.memberSteps member position) level
      (fieldLines generator level position members) := by
  induction members generalizing position with
  | nil => exact .nil level
  | cons member rest ih =>
    rw [List.zipIdx_cons, List.flatMap_cons, fieldLines]
    exact (Lays.lines _ level).append (ih (position + 1))

/-- The assignments are laid out in order. -/
theorem lays_assignments (generator : Generator) (level : Level) (members : List Member) :
    Lays (members.flatMap generator.assignmentSteps) level
      (assignmentLines generator level members) :=
  .flatMap fun _ => .lines _ level

/-- The heading of the constructor with parameters is one line put together from three texts. -/
theorem lays_constructor (generator : Generator) (level : Level) (contract : Message) :
    Lays [.text ("public " ++ contract.name ++ " ("),
        .text (", ".intercalate (contract.members.map generator.parameterText)), .lines ")"] level
      (place level (constructorLines generator contract)) :=
  ((LaysOpen.single _ level).text _).lines _

/-- The body of a class is laid out, with or without members. -/
theorem lays_body (generator : Generator) (level : Level) (contract : Message) :
    Lays (generator.bodySteps contract) level (classBody generator level contract) := by
  cases members : contract.members with
  | nil =>
    rw [bodySteps, classBody, members]
    exact .nil level
  | cons member rest =>
    have fields := lays_fields generator level 1 contract.members
    have constructorHeading := lays_constructor generator level contract
    have assignments : Lays (block (contract.members.flatMap generator.assignmentSteps)) level
        (braces level (assignmentLines generator (level + 1) contract.members)) :=
      .block fun inner deeper => by
        rw [← deeper]
        exact lays_assignments generator inner contract.members
    have private_text := Lays.lines
      (generator.settings.privateConstructor.render #v[contract.name]) level
    have laid := ((fields.append private_text).append constructorHeading).append
      assignments
    rw [bodySteps, classBody]
    rw [members] at laid ⊢
    simp only [List.append_assoc] at laid ⊢
    exact laid

/-- The heading of a class is laid out, with or without modifiers. -/
theorem lays_heading (generator : Generator) (level : Level) (contract : Message) :
    Lays ([.text (generator.settings.classHeader.render #v[contract.name])]
        ++ baseSteps contract.modifiers ++ [.endLine]) level
      (place level (classHeading generator contract)) := by
  cases modifiers : contract.modifiers with
  | nil =>
    rw [classHeading, modifiers]
    exact (LaysOpen.single _ level).endLine
  | cons modifier rest =>
    rw [classHeading, modifiers]
    exact ((LaysOpen.single _ level).text _).endLine

/-- A class is laid out. -/
theorem lays_contract (generator : Generator) (level : Level) (contract : Message) :
    Lays (generator.contractSteps contract) level (classLines generator level contract) := by
  have heading := lays_heading generator level contract
  have body : Lays (block (generator.bodySteps contract)) level
      (braces level (classBody generator (level + 1) contract)) :=
    .block fun inner deeper => by
      rw [← deeper]
      exact lays_body generator inner contract
  have reported := Lays.report
    (.contract contract.name contract.members.length contract.modifiers.length) level
  exact (reported.append heading).append body

/-- The messages that join an interface are those that carry one of its tags. -/
theorem joining_eq_filter (rule : InterfaceRule) (entity : Entity) :
    joining rule entity = entity.messages.filter fun message =>
      decide (∃ modifier ∈ message.modifiers, modifier.identifier ∈ rule.tags) := by
  refine List.filter_congr fun message _ => ?_
  rw [Bool.eq_iff_iff, Message.carriesAny, List.any_eq_true, decide_eq_true_iff]
  simp only [List.contains_iff_mem]

/-- The interface of a rule is laid out, or nothing where no message joins it. -/
theorem lays_interface (generator : Generator) (level : Level) (name : String) (entity : Entity)
    (rule : InterfaceRule) :
    Lays (generator.interfaceSteps name entity rule) level
      (interfaceLines generator level name entity rule) := by
  have same := joining_eq_filter rule entity
  rw [interfaceSteps, interfaceLines, ← same]
  cases joining rule entity with
  | nil => exact .nil level
  | cons message rest =>
    have body (inner : Level) : Lays ((message :: rest).map fun message => Step.lines
          (generator.settings.interfaceMember.render #v[message.name])) inner
        ((message :: rest).flatMap fun message => place inner (physicalLines
          (generator.settings.interfaceMember.render #v[message.name]))) := by
      rw [List.map_eq_flatMap]
      exact .flatMap fun message => .lines _ inner
    exact (((Lays.report _ level).append (.endLine level)).append (.lines _ level)).append
      (.block fun inner deeper => by rw [← deeper]; exact body inner)

/-- A name other than the excluded one stays. -/
theorem filter_bne (name excluded : String) :
    (some name).filter (· != excluded) = if name = excluded then none else some name := by
  rw [Option.filter_some]
  by_cases same : name = excluded
  · rw [if_pos same, if_neg (mt bne_iff_ne.mp (not_not_intro same))]
  · rw [if_neg same, if_pos (bne_iff_ne.mpr same)]

/-- The interfaces of an entity are laid out, or nothing for an entity without a name. -/
theorem lays_entity (generator : Generator) (level : Level) (entity : Entity) :
    Lays (generator.entitySteps entity) level (entityLines generator level entity) := by
  rw [entitySteps, entityLines, Entity.properName, Entity.nameless]
  cases entity.name with
  | none => exact .report _ level
  | some name =>
    rw [filter_bne]
    by_cases nameless : name = "null"
    · simp only [if_pos nameless]
      exact .report _ level
    · simp only [if_neg nameless]
      exact .flatMap fun rule => lays_interface generator level name entity rule

/-- Classes and interfaces are laid out in order. -/
theorem lays_core (generator : Generator) (level : Level) (model : Model) :
    Lays (generator.coreSteps model) level (coreLines generator model level) :=
  (Lays.flatMap fun contract => lays_contract generator level contract).append
    (.flatMap fun entity => lays_entity generator level entity)

/-- What is laid out inside a region is laid out between its two lines. -/
theorem lays_region (settings : Settings) {body : List Step} {level : Level}
    {placed : List PlacedLine} (inside : Lays body level placed) :
    Lays (inRegion settings body) level (regionLines settings.region level placed) := by
  unfold inRegion regionLines
  rw [Settings.regionToOpen]
  cases settings.region with
  | none => exact inside
  | some name =>
    rw [filter_bne]
    by_cases empty : name = ""
    · simp only [if_pos empty]
      exact inside
    · simp only [if_neg empty]
      exact ((Lays.lines _ level).append inside).append (.lines "#endregion" level)

/-- What is laid out one level deeper inside a namespace is laid out between its braces. -/
theorem lays_namespace (settings : Settings) {body : List Step} (level : Level)
    {placed : Nat → List PlacedLine} (inside : ∀ inner : Level, Lays body inner (placed inner)) :
    Lays (inNamespace settings body) level (namespaceLines settings.nameSpace level placed) := by
  unfold inNamespace namespaceLines
  rw [Settings.namespaceToOpen]
  cases settings.nameSpace with
  | none => exact inside level
  | some name =>
    rw [filter_bne]
    by_cases empty : name = ""
    · simp only [if_pos empty]
      exact inside level
    · simp only [if_neg empty]
      exact (Lays.lines _ level).append
        (.block fun inner deeper => by rw [← deeper]; exact inside inner)

/-- A pass lays out its outline. -/
theorem lays_steps (generator : Generator) (model : Model) (level : Level) :
    Lays (generator.steps model) level (generator.outline model level) := by
  have wrapped : Lays (inNamespace generator.settings
      (inRegion generator.settings (generator.coreSteps model))) level
      (generator.outline model level) :=
    lays_namespace generator.settings level fun inner =>
      lays_region generator.settings (lays_core generator inner model)
  have laid := wrapped.append (.report (.finished (generator.summary model)) level)
  rw [List.append_nil] at laid
  rw [steps_eq]
  exact laid

/-- A pass on a new writer offers its outline to the store. With an empty unit it does so from
every level on. -/
theorem offeredText_onto {generator : Generator} {model : Model} {unit : String} {level : Level}
    (shown : generator.InRange model level ∨ unit = "") (store : Store) (newline : String) :
    generator.offeredText model (.onto store unit newline level) =
      Outline.text unit newline (generator.outline model level) := by
  rcases shown with inside | rfl
  · exact (lays_steps generator model level).text inside unit newline
  · have atZero := (lays_steps generator model 0).text (inRange_zero generator model) "" newline
    have texts := texts_outline generator model (0 : Level).count level
    rw [← Outline.text_eq_of_texts_eq texts, ← atZero]
    exact offeredText_of_empty_unit generator model (.onto store "" newline 0) rfl level

/-- A pass from the start of a line ends at the start of a line, whatever its levels are. -/
theorem startsAfter_calls (generator : Generator) (model : Model) (level : Level) :
    SinkCall.startsAfter true (generator.calls model level) = true := by
  rw [← SinkCall.startsAfter_grounded, calls, Step.trace, Operation.trace_grounded level 0,
    SinkCall.startsAfter_grounded]
  exact (lays_steps generator model 0).start (inRange_zero generator model)

/-- The source of a model is its outline in the stock layout. -/
theorem sourceText_eq_outline (generator : Generator) (model : Model) :
    generator.sourceText model =
      some (Outline.text LineWriter.stockUnit "\n" (generator.outline model 0)) := by
  have laid : generator.offeredText model LineWriter.fresh = _ :=
    offeredText_onto (.inl (inRange_zero generator model)) .unlimited "\n"
  rw [sourceText_eq_some, laid]
  rfl

/-- A pass that succeeds has offered a text that fits. -/
theorem fits_of_ok {generator : Generator} {model : Model} {writer : LineWriter}
    {summary : Summary} (done : (generator.generate model writer).result = .ok summary) :
    writer.store.Fits (generator.offeredText model writer).toByteArray := by
  apply Classical.byContradiction
  intro unfit
  obtain ⟨failed, -⟩ := generate_of_not_fits generator model unfit
  rw [failed] at done
  cases done

/-- A pass on a new writer that succeeds adds exactly its outline to the store, line by line, and
with unlimited room it does succeed. Only a pass that would raise the highest level goes astray,
unless the unit is empty, and it has then written a line behind all the indent that a level can
count. -/
theorem generate_writes_outline (generator : Generator) (model : Model) (store : Store)
    (unit newline : String) (level : Level) :
    let pass := generator.generate model (LineWriter.onto store unit newline level)
    (store.room = none → pass.result = .ok (generator.summary model)) ∧
      ∀ summary, pass.result = .ok summary →
        (generator.InRange model level ∨ unit = "" → pass.sink.store.content = store.content
          ++ (Outline.text unit newline (generator.outline model level)).toUTF8) ∧
        (¬generator.InRange model level → ∃ before after, pass.sink.store.content = store.content
          ++ (before ++ indentText unit Level.top.count ++ after).toUTF8) := by
  intro pass
  refine ⟨fun unlimited => (generate_of_room_eq_none generator model unlimited).1, ?_⟩
  intro summary done
  have fits := fits_of_ok done
  obtain ⟨-, reached⟩ := generate_of_fits generator model fits
  have content : pass.sink.store.content = store.content
      ++ (generator.offeredText model (.onto store unit newline level)).toUTF8 := by
    rw [reached]
    exact Store.content_offered_of_fits fits
  refine ⟨fun shown => ?_, fun beyond => ?_⟩
  · rw [content, offeredText_onto shown]
  · have meets := (lays_steps generator model level).meetsTop beyond
    obtain ⟨before, after, written⟩ := meets.written unit newline
    have offered : generator.offeredText model (.onto store unit newline level) =
        before ++ indentText unit Level.top.count ++ after := written
    exact ⟨before, after, by rw [content, offered]⟩

/-- A contract with a member and a tag, and an entity whose message joins the commands. -/
def depositModel : Model where
  contracts := [⟨"Deposited", [⟨"decimal", "amount"⟩], [⟨"?", "ICommand"⟩]⟩]
  entities := [⟨some "Account", [⟨"Deposited", [], [⟨"?", "ICommand"⟩]⟩]⟩]

/-- With unlimited room the whole outline of a model arrives. -/
theorem generate_writes_outline_deposit :
    Store.unlimited.room = none ∧ (Generator.ofSettings .stock).InRange depositModel 2 ∧
      ∃ summary, ((Generator.ofSettings .stock).generate depositModel
          (LineWriter.onto .unlimited "\t" "\r\n" 2)).result = .ok summary ∧
        ((Generator.ofSettings .stock).generate depositModel
          (LineWriter.onto .unlimited "\t" "\r\n" 2)).sink.store.content =
            Store.unlimited.content ++ (Outline.text "\t" "\r\n"
              ((Generator.ofSettings .stock).outline depositModel 2)).toUTF8 := by
  obtain ⟨succeeds, writes⟩ := generate_writes_outline (Generator.ofSettings .stock)
    depositModel .unlimited "\t" "\r\n" 2
  have inside : (Generator.ofSettings .stock).InRange depositModel 2 :=
    inRange_of_room _ _ (by decide)
  exact ⟨rfl, inside, _, succeeds rfl, (writes _ (succeeds rfl)).1 (.inl inside)⟩

end MessageContracts.Generator
