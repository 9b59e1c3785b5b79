import MessageContracts.Proofs.ManifestFaults
import MessageContracts.Proofs.OutlineLengths
import MessageContracts.Proofs.PassParts
import MessageContracts.Proofs.SourceLayout

/-!
# Rules that are never emitted

What a rule does for a pass is seen by taking the rule out of the settings. For each model there are
two possibilities only. Either an interface of the rule is a part of the pass, and then the source
is another one without the rule; or there is no such part, and then the pass is the same without
the rule, whatever the sink is. A rule without tags is passed over in every model, and there is one
model for which all other rules are emitted at once. So the complaint about a rule without tags is
made of those rules that could as well be left out, and of no others.
-/

namespace MessageContracts

section Places

variable {α β : Type} (items : List α) (place : Fin items.length)

/-- A list is what stands before a place, the item there, and what stands behind. -/
theorem exists_split_eraseIdx :
    ∃ earlier later, items = earlier ++ items[place] :: later ∧
      items.eraseIdx place = earlier ++ later := by
  refine ⟨items.take place, items.drop (place + 1), ?_, List.eraseIdx_eq_take_drop_succ _ _⟩
  have behind : items[place] :: items.drop (place + 1) = items.drop place :=
    List.getElem_cons_drop place.isLt
  rw [behind, List.take_append_drop]

/-- An item that contributes nothing may be left out. -/
theorem flatMap_eraseIdx {rowOf : α → List β} (nothing : rowOf items[place] = []) :
    (items.eraseIdx place).flatMap rowOf = items.flatMap rowOf := by
  obtain ⟨earlier, later, split, erased⟩ := exists_split_eraseIdx items place
  rw [erased]
  conv_rhs => rw [split]
  rw [List.flatMap_append, List.flatMap_append, List.flatMap_cons, nothing, List.nil_append]

/-- An item that is not counted may be left out. -/
theorem countP_eraseIdx {counts : α → Bool} (uncounted : ¬ counts items[place] = true) :
    (items.eraseIdx place).countP counts = items.countP counts := by
  obtain ⟨earlier, later, split, erased⟩ := exists_split_eraseIdx items place
  rw [erased]
  conv_rhs => rw [split]
  rw [List.countP_append, List.countP_append, List.countP_cons_of_neg uncounted]

end Places

namespace Generator

/-- The generator without the rule at a place. -/
def withoutRule (generator : Generator) (place : Nat) : Generator :=
  { generator with settings := { generator.settings with
      interfaces := generator.settings.interfaces.eraseIdx place } }

/-- A pass over the model emits an interface for the rule at a place. -/
structure Emits (generator : Generator) (model : Model)
    (place : Fin generator.settings.interfaces.length) : Prop where
  /-- An interface of the rule is a part of the pass. -/
  part : ∃ name entity, ∃ matched : generator.settings.interfaces[place].matching entity ≠ [],
    .interface name entity generator.settings.interfaces[place] matched ∈ generator.parts model
  /-- Without the rule the source is another one. -/
  seen : (generator.withoutRule place).sourceText model ≠ generator.sourceText model

/-- A pass over the model emits nothing for the rule at a place. -/
structure PassesOver (generator : Generator) (model : Model)
    (place : Fin generator.settings.interfaces.length) : Prop where
  /-- No interface of the rule is a part of the pass. -/
  noPart : ∀ name entity, ∀ matched : generator.settings.interfaces[place].matching entity ≠ [],
    .interface name entity generator.settings.interfaces[place] matched ∉ generator.parts model
  /-- On every sink the pass without the rule is the same. -/
  unseen : ∀ (σ : Type) [LineSink σ] (sink : σ),
    (generator.withoutRule place).generate model sink = generator.generate model sink

/-- An interface of a rule is a part of a pass when some entity of the model gives rise to it. -/
theorem exists_interface_mem_parts_iff {generator : Generator} {rule : InterfaceRule}
    (configured : rule ∈ generator.settings.interfaces) (model : Model) :
    (∃ name entity matched, .interface name entity rule matched ∈ generator.parts model) ↔
      ∃ entity ∈ model.entities, entity.Gives rule := by
  have ofEntity (source : Entity) :
      (∃ name entity matched, .interface name entity rule matched ∈ generator.entityParts source) ↔
        source.Gives rule := by
    have matches_iff := not_congr (rule.matching_eq_nil_iff source)
    rw [not_not] at matches_iff
    rw [entityParts, Entity.Gives, Entity.Unnamed, ← matches_iff]
    cases source.name with
    | none => simp
    | some name =>
      by_cases unnamed : name = "null"
      · simp [unnamed]
      · simp only [if_neg unnamed, List.mem_filterMap, InterfaceRule.part?]
        constructor
        · rintro ⟨_, _, _, other, -, found⟩
          split at found
          · cases found
            rename_i matched
            exact ⟨by simpa using unnamed, matched⟩
          · cases found
        · rintro ⟨-, matched⟩
          exact ⟨name, source, matched, rule, configured, dif_pos matched⟩
  simp only [parts, List.mem_append, List.mem_singleton, List.mem_map, List.mem_flatMap,
    reduceCtorEq, false_or, or_false, and_false, exists_false, ← ofEntity]
  constructor
  · rintro ⟨name, entity, matched, source, listed, part⟩
    exact ⟨source, listed, name, entity, matched, part⟩
  · rintro ⟨source, listed, name, entity, matched, part⟩
    exact ⟨name, entity, matched, source, listed, part⟩

section Unseen

variable {generator : Generator} {place : Fin generator.settings.interfaces.length}

/-- An entity that gives rise to no interface of a rule takes the same steps without the rule. -/
theorem entitySteps_withoutRule {entity : Entity}
    (idle : ¬ entity.Gives generator.settings.interfaces[place]) :
    (generator.withoutRule place).entitySteps entity = generator.entitySteps entity := by
  rw [entitySteps, entitySteps]
  cases proper : entity.properName with
  | none => rfl
  | some name =>
    have named : ¬ entity.Unnamed := by
      rw [← entity.properName_eq_none_iff, proper]
      exact Option.some_ne_none name
    have nothing :
        generator.interfaceSteps name entity generator.settings.interfaces[place] = [] := by
      have unmatched : joining generator.settings.interfaces[place] entity = [] := by
        rw [joining_eq_filter]
        exact (InterfaceRule.matching_eq_nil_iff _ entity).mpr fun given => idle ⟨named, given⟩
      rw [interfaceSteps, unmatched]
      rfl
    exact flatMap_eraseIdx _ place nothing

/-- It counts the same, too. -/
theorem interfaceCount_withoutRule {entity : Entity}
    (idle : ¬ entity.Gives generator.settings.interfaces[place]) :
    (generator.withoutRule place).interfaceCount entity = generator.interfaceCount entity := by
  rw [interfaceCount_eq_countP, interfaceCount_eq_countP]
  exact countP_eraseIdx _ place (by rwa [decide_eq_true_iff])

variable {model : Model}

/-- Where no entity gives rise to an interface of a rule, a pass without the rule is the same. -/
theorem generate_withoutRule
    (idle : ∀ entity ∈ model.entities, ¬ entity.Gives generator.settings.interfaces[place])
    {σ : Type} [LineSink σ] (sink : σ) :
    (generator.withoutRule place).generate model sink = generator.generate model sink := by
  have written : model.entities.flatMap (generator.withoutRule place).entitySteps =
      model.entities.flatMap generator.entitySteps :=
    List.flatMap_congr fun entity listed => entitySteps_withoutRule (idle entity listed)
  have count_eq : model.entities.map (generator.withoutRule place).interfaceCount =
      model.entities.map generator.interfaceCount :=
    List.map_congr_left fun entity listed => interfaceCount_withoutRule (idle entity listed)
  have summed : (generator.withoutRule place).summary model = generator.summary model := by
    rw [summary_eq, summary_eq, count_eq]
  have taken : (generator.withoutRule place).steps model = generator.steps model := by
    rw [steps_eq, steps_eq, coreSteps, coreSteps, written, summed]
    rfl
  rw [generate, generate, taken, summed]

end Unseen

end Generator

namespace Outline

variable (unit : String) {newline : String}

/-- Lines at an item make a text longer than it is without the item. -/
theorem length_text_eraseIdx {α : Type} (items : List α) (place : Fin items.length)
    (linesOf : α → List PlacedLine) :
    (text unit newline (items.flatMap linesOf)).length =
      (text unit newline ((items.eraseIdx place).flatMap linesOf)).length +
        (text unit newline (linesOf items[place])).length := by
  obtain ⟨earlier, later, split, erased⟩ := exists_split_eraseIdx items place
  rw [erased]
  conv_lhs => rw [split]
  simp only [List.flatMap_append, List.flatMap_cons, length_text_append]
  omega

/-- An interface has a text, if only for its line breaks. -/
theorem length_text_interfaceLines_pos (breaks : 0 < newline.length) (generator : Generator)
    (level : Nat) (name : String) {entity : Entity} {rule : InterfaceRule}
    (matched : rule.matching entity ≠ []) :
    0 < (text unit newline (interfaceLines generator level name entity rule)).length := by
  have joining : entity.messages.filter (fun message =>
      decide (∃ modifier ∈ message.modifiers, modifier.identifier ∈ rule.tags)) ≠ [] := matched
  rw [interfaceLines]
  split
  next unmatched => exact absurd unmatched joining
  next =>
    rw [List.cons_append, length_text_cons, PlacedLine.written, String.length_append]
    omega

variable {generator : Generator} (place : Fin generator.settings.interfaces.length)

/-- Without a rule the interfaces of an entity are no longer, and shorter if the entity gives rise
to an interface of the rule. -/
theorem length_text_entityLines_withoutRule (breaks : 0 < newline.length) (level : Nat)
    (entity : Entity) :
    let without := (text unit newline
      (entityLines (generator.withoutRule place) level entity)).length
    let whole := (text unit newline (entityLines generator level entity)).length
    without ≤ whole ∧ (entity.Gives generator.settings.interfaces[place] → without < whole) := by
  intro without whole
  cases named : entity.name with
  | none =>
    have same : without = whole := by
      simp only [without, whole, entityLines, named]
    exact ⟨Nat.le_of_eq same, fun gives => absurd (.inl named) gives.1⟩
  | some name =>
    by_cases unnamed : name = "null"
    · have same : without = whole := by
        simp only [without, whole, entityLines, named, if_pos unnamed]
      refine ⟨Nat.le_of_eq same, fun gives => ?_⟩
      exact absurd (.inr (named.trans (congrArg some unnamed))) gives.1
    · have sum : whole = without + (text unit newline (interfaceLines generator level name entity
          generator.settings.interfaces[place])).length := by
        simp only [without, whole, entityLines, named, if_neg unnamed]
        exact length_text_eraseIdx unit _ place _
      refine ⟨by omega, fun gives => ?_⟩
      have matched : generator.settings.interfaces[place].matching entity ≠ [] := by
        rw [Ne, InterfaceRule.matching_eq_nil_iff, not_not]
        exact gives.2
      have filled := length_text_interfaceLines_pos unit breaks generator level name matched
      omega

/-- The same of all entities together. -/
theorem length_text_entities_withoutRule (breaks : 0 < newline.length) (level : Nat)
    (entities : List Entity) :
    let without := (text unit newline
      (entities.flatMap (entityLines (generator.withoutRule place) level))).length
    let whole := (text unit newline (entities.flatMap (entityLines generator level))).length
    without ≤ whole ∧
      ((∃ entity ∈ entities, entity.Gives generator.settings.interfaces[place]) →
        without < whole) := by
  induction entities with
  | nil => exact ⟨Nat.le_refl _, nofun⟩
  | cons entity rest ih =>
    obtain ⟨here, hereLess⟩ :=
      length_text_entityLines_withoutRule unit place breaks level entity
    obtain ⟨later, laterLess⟩ := ih
    simp only [List.flatMap_cons, length_text_append]
    refine ⟨by omega, ?_⟩
    rintro ⟨giver, listed, gives⟩
    obtain rfl | listed := List.mem_cons.mp listed
    · have less := hereLess gives
      omega
    · have less := laterLess ⟨giver, listed, gives⟩
      omega

/-- Where an entity gives rise to an interface of a rule, the rule makes the outline longer. -/
theorem length_text_outline_withoutRule (breaks : 0 < newline.length) {model : Model}
    (given : ∃ entity ∈ model.entities, entity.Gives generator.settings.interfaces[place])
    (level : Nat) :
    (text unit newline ((generator.withoutRule place).outline model level)).length <
      (text unit newline (generator.outline model level)).length := by
  refine length_text_namespaceLines unit newline (fun inner => ?_) _ level
  refine length_text_regionLines_lt unit newline ?_ generator.settings.region inner
  have classes : classLines (generator.withoutRule place) inner = classLines generator inner := by
    apply classLines_congr <;> rfl
  have interfaces :=
    (length_text_entities_withoutRule unit place breaks inner model.entities).2 given
  simp only [coreLines, classes, length_text_append]
  omega

end Outline

namespace Generator

variable (generator : Generator) (model : Model)
variable (place : Fin generator.settings.interfaces.length)

/-- A rule is emitted where an entity gives rise to an interface of it. -/
theorem emits_of_gives
    (given : ∃ entity ∈ model.entities, entity.Gives generator.settings.interfaces[place]) :
    generator.Emits model place where
  part := (exists_interface_mem_parts_iff (List.getElem_mem place.isLt) model).mpr given
  seen same := by
    have shorter := Outline.length_text_outline_withoutRule LineWriter.stockUnit place
      (by decide : 0 < "\n".length) given 0
    rw [sourceText_eq_outline, sourceText_eq_outline, Option.some.injEq] at same
    rw [same] at shorter
    exact Nat.lt_irrefl _ shorter

/-- A rule is emitted or passed over. -/
theorem emits_or_passesOver : generator.Emits model place ∨ generator.PassesOver model place := by
  have part_iff := exists_interface_mem_parts_iff (List.getElem_mem place.isLt) model
  by_cases given : ∃ entity ∈ model.entities, entity.Gives generator.settings.interfaces[place]
  · exact .inl (emits_of_gives generator model place given)
  · refine .inr ⟨fun name entity matched part => ?_, fun σ _ sink => ?_⟩
    · exact given (part_iff.mp ⟨name, entity, matched, part⟩)
    · exact generate_withoutRule (fun entity listed gives => given ⟨entity, listed, gives⟩) sink

/-- A rule that is emitted is that of an interface that some entity gives rise to. -/
theorem Emits.exists_gives {generator : Generator} {model : Model}
    {place : Fin generator.settings.interfaces.length} (emits : generator.Emits model place) :
    ∃ entity ∈ model.entities, entity.Gives generator.settings.interfaces[place] :=
  (exists_interface_mem_parts_iff (List.getElem_mem place.isLt) model).mp emits.part

end Generator

/-- A model of one entity with one message, which carries every tag of the rules. -/
def Settings.coveringModel (settings : Settings) : Model where
  contracts := []
  entities := [⟨some "Everything", [⟨"Tagged", [],
    (settings.interfaces.flatMap (·.tags)).map fun tag => ⟨tag, "ITagged"⟩⟩]⟩]

/-- A rule with a tag is emitted for that model. -/
theorem Generator.emits_coveringModel (generator : Generator)
    (place : Fin generator.settings.interfaces.length)
    (tagged : generator.settings.interfaces[place].tags ≠ []) :
    generator.Emits generator.settings.coveringModel place := by
  refine emits_of_gives _ _ place ⟨_, List.mem_singleton_self _, ?_, ?_⟩
  · rintro (absent | unnamed)
    · cases absent
    · exact absurd (Option.some.inj unnamed) (by decide)
  · obtain ⟨tag, listed⟩ := List.exists_mem_of_ne_nil _ tagged
    refine ⟨_, List.mem_singleton_self _, ⟨tag, "ITagged"⟩, ?_, listed⟩
    have carried : tag ∈ generator.settings.interfaces.flatMap (·.tags) :=
      List.mem_flatMap.mpr ⟨_, List.getElem_mem place.isLt, listed⟩
    exact List.mem_map.mpr ⟨tag, carried, rfl⟩

/-- A rule without tags is not emitted for any model, and every other one for some model. -/
theorem Generator.tags_eq_nil_iff (generator : Generator)
    (place : Fin generator.settings.interfaces.length) :
    generator.settings.interfaces[place].tags = [] ↔ ∀ model, ¬ generator.Emits model place := by
  constructor
  · intro bare model emits
    obtain ⟨entity, -, gives⟩ := emits.exists_gives
    obtain ⟨message, -, modifier, -, listed⟩ := gives.2
    rw [bare] at listed
    cases listed
  · intro never
    by_contra tagged
    exact never _ (generator.emits_coveringModel place tagged)

namespace Manifest

/-- A manifest is accepted if its indent is blank and every rule has tags and no empty one, and else
it is refused for its first fault. A rule is refused for having no tags exactly if it is not emitted
for any model; whatever the model is, a pass emits a rule or is the same without it. For an accepted
manifest there is one model for which every rule is emitted. -/
theorem fault?_finds_dead_rules (manifest : Manifest) (spelling : SpellingStyle) :
    let rules := manifest.settings.interfaces
    let generator : Generator := ⟨manifest.settings, spelling⟩
    (manifest.fault? = none ↔ manifest.layout.IsBlank ∧ ∀ rule ∈ rules, rule.IsTagged) ∧
    (∀ message, manifest.fault?.map ManifestFault.message = some message ↔
      manifest.Complaint message) ∧
    (∀ place : Fin rules.length,
      (rules[place].fault? = some (.noTags rules[place].name.source) ↔
        ∀ model, ¬ generator.Emits model place) ∧
      ∀ model, generator.Emits model place ∨ generator.PassesOver model place) ∧
    (manifest.fault? = none → ∃ model, ∀ place, generator.Emits model place) := by
  intro rules generator
  refine ⟨manifest.fault?_eq_none_iff, manifest.message_fault?_iff, fun place => ⟨?_, ?_⟩, ?_⟩
  · exact rules[place].fault?_eq_noTags_iff.trans (generator.tags_eq_nil_iff place)
  · exact fun model => generator.emits_or_passesOver model place
  · intro accepted
    refine ⟨manifest.settings.coveringModel, fun place => ?_⟩
    have tagged := (manifest.fault?_eq_none_iff.mp accepted).2 _ (List.getElem_mem place.isLt)
    exact generator.emits_coveringModel place tagged.tagged

/-- A manifest with a rule without tags between one that has a tag and one of which the tag is
empty. -/
def strayRules : Manifest where
  settings := { Settings.stock with interfaces := [
    ⟨.ofSource "public interface I\x7b0\x7dHandler" (by decide), ["?"]⟩,
    ⟨.ofSource "public interface I\x7b0\x7dDraft" (by decide), []⟩,
    ⟨.ofSource "public interface I\x7b0\x7dHidden" (by decide), [""]⟩] }
  layout := ⟨"\t", .crlf⟩

/-- It is refused for the rule without tags, which is never emitted, though the rule with the empty
tag can be. The stock manifest is accepted and all its rules can be emitted at once. -/
theorem fault?_finds_dead_rules_strayRules :
    let stray : Generator := ⟨strayRules.settings, Spelling.csharp⟩
    strayRules.Complaint
        "Interface 'public interface I\x7b0\x7dDraft' has no tags and would never be emitted" ∧
      (∀ model, ¬ stray.Emits model ⟨1, by decide⟩) ∧
      (∃ model, stray.Emits model ⟨2, by decide⟩) ∧
      stock.fault? = none ∧
      ∃ model, ∀ place, (Generator.mk stock.settings Spelling.csharp).Emits model place := by
  intro stray
  obtain ⟨-, said, dead, -⟩ := fault?_finds_dead_rules strayRules Spelling.csharp
  obtain ⟨-, -, -, alive⟩ := fault?_finds_dead_rules stock Spelling.csharp
  have fine : stock.fault? = none := by decide +kernel
  refine ⟨(said _).mp (by decide +kernel), (dead ⟨1, by decide⟩).1.mp (by decide +kernel), ?_,
    fine, alive fine⟩
  by_contra never
  have bare := (dead ⟨2, by decide⟩).1.mpr (not_exists.mp never)
  exact absurd bare (by decide +kernel)

end Manifest

end MessageContracts
