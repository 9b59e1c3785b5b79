import MessageContracts.Proofs.Wrappers

/-!
# Emission is local

Without wrappers the source of a model is made of the sources of its contracts and entities, each
generated on its own, and the summary adds up in the same way. A pass leaves a writer at the start
of a line and at its level, with nothing else to remember, so that the next pass on that writer
writes what the first one wrote. A pass that raises the highest level leaves level zero instead,
and so do the passes after it. Passes that are stopped are not considered here.
-/

namespace MessageContracts

namespace Model

/-- The model with one contract and nothing else. -/
def ofContract (contract : Message) : Model := ⟨[contract], []⟩

/-- The model with one entity and nothing else. -/
def ofEntity (entity : Entity) : Model := ⟨[], [entity]⟩

/-- The contracts and then the entities of a model, each as a model of its own. -/
def pieces (model : Model) : List Model :=
  model.contracts.map ofContract ++ model.entities.map ofEntity

end Model

/-- Lines of several parts, laid out part by part. -/
theorem Outline.text_flatMap {α : Type} (unit newline : String) (items : List α)
    (linesOf : α → List PlacedLine) :
    text unit newline (items.flatMap linesOf) =
      String.join (items.map fun item => text unit newline (linesOf item)) := by
  induction items with
  | nil => rfl
  | cons item rest ih =>
    rw [List.flatMap_cons, text_append, ih, List.map_cons, String.join_cons]

namespace Generator

open Outline

/-- The lines of a model are those of its pieces. -/
theorem coreLines_eq_flatMap_pieces (generator : Generator) (model : Model) (level : Nat) :
    coreLines generator model level =
      model.pieces.flatMap fun piece => coreLines generator piece level := by
  have contract (contract : Message) : coreLines generator (.ofContract contract) level =
      classLines generator level contract := by
    simp [coreLines, Model.ofContract]
  have entity (entity : Entity) : coreLines generator (.ofEntity entity) level =
      entityLines generator level entity := by
    simp [coreLines, Model.ofEntity]
  rw [coreLines, Model.pieces, List.flatMap_append, List.flatMap_map, List.flatMap_map]
  simp only [contract, entity]

/-- Without wrappers the source is the lines of the classes and interfaces. -/
theorem sourceText_of_unwrapped {generator : Generator} (model : Model)
    (noNamespace : generator.settings.nameSpace = none)
    (noRegion : generator.settings.region = none) :
    generator.sourceText model =
      some (Outline.text LineWriter.stockUnit "\n" (coreLines generator model 0)) := by
  have unwrapped : generator.outline model 0 = coreLines generator model 0 := by
    rw [outline, noNamespace, noRegion, namespaceLines, regionLines]
  rw [sourceText_eq_outline, unwrapped]

/-- Without wrappers the source is the sources of the pieces, one after the other. -/
theorem sourceText_eq_join_pieces {generator : Generator} (model : Model)
    (noNamespace : generator.settings.nameSpace = none)
    (noRegion : generator.settings.region = none) :
    ∃ texts, model.pieces.mapM generator.sourceText = some texts ∧
      generator.sourceText model = some (String.join texts) := by
  have each : generator.sourceText = fun piece =>
      some (Outline.text LineWriter.stockUnit "\n" (coreLines generator piece 0)) :=
    funext fun piece => sourceText_of_unwrapped piece noNamespace noRegion
  have all (pieces : List Model) : pieces.mapM generator.sourceText = some (pieces.map fun piece =>
      Outline.text LineWriter.stockUnit "\n" (coreLines generator piece 0)) := by
    rw [each]
    exact List.mapM_pure
  refine ⟨_, all model.pieces, ?_⟩
  rw [sourceText_of_unwrapped model noNamespace noRegion, coreLines_eq_flatMap_pieces,
    Outline.text_flatMap]

/-- The summary of an entity on its own is what the entity counts. -/
theorem summary_ofEntity (generator : Generator) (entity : Entity) :
    generator.summary (.ofEntity entity) = generator.entityCounts entity := by
  rw [summary_eq]
  simp [Model.ofEntity, entityCounts, List.countP_cons]

/-- A summary adds up those of the contracts and entities. -/
theorem summary_eq_total_pieces (generator : Generator) (model : Model) :
    generator.summary model = Summary.total (model.pieces.map generator.summary) := by
  have ofContract : generator.summary ∘ Model.ofContract = fun _ => ⟨1, 0, 0⟩ :=
    funext fun contract => generator.summary_eq (.ofContract contract)
  have ofEntity : generator.summary ∘ Model.ofEntity = generator.entityCounts :=
    funext (summary_ofEntity generator)
  rw [Model.pieces, List.map_append, List.map_map, List.map_map, Summary.total_append, ofContract,
    ofEntity, total_contracts, total_entities, summary_eq]
  simp [Summary.add]

section Repeated

variable {σ : Type} [LineSink σ]

/-- So many passes over a model, each on the sink that the one before it leaves. -/
def generateTimes (generator : Generator) (model : Model) : Nat → σ → List (Pass σ)
  | 0, _ => []
  | count + 1, sink =>
    let pass := generator.generate model sink
    pass :: generateTimes generator model count pass.sink

end Repeated

/-- A pass with unlimited room leaves a writer that stands at the start of a line at the start of a
line, at the level that its steps lead to, and with its text in the store. -/
theorem generate_at_lineStart {generator : Generator} {model : Model} {writer : LineWriter}
    (starts : writer.atLineStart = true) (unlimited : writer.store.room = none) :
    (generator.generate model writer).result = .ok (generator.summary model) ∧
      (generator.generate model writer).sink = { writer with
        level := Step.endLevel writer.level (generator.steps model)
        store := writer.store.offered (generator.offeredText model writer).toByteArray } := by
  have fits : writer.store.Fits (generator.offeredText model writer).toByteArray :=
    Store.fits_of_room_eq_none unlimited
  have offers := LineWriter.offers_performAll ((generator.steps model).flatMap Step.operations)
    writer
  obtain ⟨done, reached⟩ := generate_of_ok (offers.delivered fits)
  have start : SinkCall.startsAfter writer.atLineStart
      (Operation.trace writer.level ((generator.steps model).flatMap Step.operations)) = true := by
    rw [starts]
    exact startsAfter_calls generator model writer.level
  rw [start] at reached
  refine ⟨done, ?_⟩
  rw [reached, ← starts]
  rfl

/-- A pass that ends at its level, or writes no indent, offers the same text once more. -/
theorem offeredText_again {generator : Generator} {model : Model} {writer : LineWriter}
    (same : generator.InRange model writer.level ∨ writer.unit = "") :
    generator.offeredText model
        { writer with level := Step.endLevel writer.level (generator.steps model) } =
      generator.offeredText model writer := by
  rcases same with inside | noUnit
  · rw [endLevel_steps inside]
  · exact offeredText_of_empty_unit generator model writer noUnit _

/-- Passes one after the other on a writer that stands at the start of a line write the same text
each time, return the same summary, and leave the same level. -/
theorem map_generateTimes {generator : Generator} {model : Model} (count : Nat)
    {writer : LineWriter} (same : generator.InRange model writer.level ∨ writer.unit = "")
    (starts : writer.atLineStart = true) (unlimited : writer.store.room = none) :
    (generator.generateTimes model count writer).map
        (fun pass => (pass.result, pass.sink.level, pass.sink.store.content)) =
      (List.range count).map fun earlier =>
        (.ok (generator.summary model), Step.endLevel writer.level (generator.steps model),
          writer.store.content ++ (String.join
            (List.replicate (earlier + 1) (generator.offeredText model writer))).toByteArray) := by
  induction count generalizing writer with
  | zero => rfl
  | succ count ih =>
    obtain ⟨done, reached⟩ := generate_at_lineStart starts unlimited
    have fits : writer.store.Fits (generator.offeredText model writer).toByteArray :=
      Store.fits_of_room_eq_none unlimited
    have again : generator.InRange model (Step.endLevel writer.level (generator.steps model)) ∨
        writer.unit = "" :=
      same.imp_left fun inside => (endLevel_steps inside).symm ▸ inside
    have later := @ih { writer with
      level := Step.endLevel writer.level (generator.steps model)
      store := writer.store.offered (generator.offeredText model writer).toByteArray } again starts
      (by simp [Store.offered, unlimited])
    -- The text of a pass does not depend on what the store holds.
    have text : generator.offeredText model { writer with
        level := Step.endLevel writer.level (generator.steps model)
        store := writer.store.offered (generator.offeredText model writer).toByteArray } =
      generator.offeredText model writer := offeredText_again same
    rw [text, Store.content_offered_of_fits fits, endLevel_endLevel_steps] at later
    rw [generateTimes, List.map_cons, done, reached, later, List.range_succ_eq_map, List.map_cons,
      List.map_map, Store.content_offered_of_fits fits]
    simp [List.replicate_succ, String.join_cons, ByteArray.append_assoc, Function.comp_def]

/-- Without wrappers, the source of a model is that of its contracts and then of its entities, each
generated on its own, in their order, and the summary is the sum of theirs. With any wrappers,
passes one after the other on one new writer write the text of a single pass each, return its
summary, and leave its level. Only passes that would raise the highest level behind a unit with
text are an exception: the first one has written a line behind all the indent that a level can
count. -/
theorem generate_is_local (settings : Settings) (spelling : SpellingStyle) (model : Model) :
    (let bare : Generator := ⟨{ settings with nameSpace := none, region := none }, spelling⟩
      ∃ texts summaries,
        model.pieces.mapM bare.sourceText = some texts ∧
        bare.sourceText model = some (String.join texts) ∧
        model.pieces.mapM (fun piece => (bare.generate piece LineWriter.fresh).result) =
          .ok summaries ∧
        (bare.generate model LineWriter.fresh).result = .ok (Summary.total summaries)) ∧
    ∀ (unit newline : String) (level : Level),
      let generator : Generator := ⟨settings, spelling⟩
      let writer := LineWriter.onto .unlimited unit newline level
      let once := generator.generate model writer
      ∃ text summary,
        once.result = .ok summary ∧ once.sink.store.content = text.toUTF8 ∧
        (generator.InRange model level → once.sink.level = level) ∧
        (generator.InRange model level ∨ unit = "" → ∀ count,
          (generator.generateTimes model count writer).map
              (fun pass => (pass.result, pass.sink.level, pass.sink.store.content)) =
            (List.range count).map fun earlier => (.ok summary, once.sink.level,
              (String.join (List.replicate (earlier + 1) text)).toUTF8)) ∧
        (¬generator.InRange model level →
          ∃ before after, text = before ++ indentText unit Level.top.count ++ after) := by
  constructor
  · intro bare
    have no_namespace : bare.settings.nameSpace = none := rfl
    have no_region : bare.settings.region = none := rfl
    obtain ⟨texts, each, joined⟩ := sourceText_eq_join_pieces model no_namespace no_region
    have done (model : Model) : (bare.generate model LineWriter.fresh).result =
        .ok (bare.summary model) := (generate_of_room_eq_none bare model rfl).1
    have all (pieces : List Model) :
        pieces.mapM (fun piece => (bare.generate piece LineWriter.fresh).result) =
          .ok (pieces.map bare.summary) := by
      simp only [done]
      exact List.mapM_pure
    refine ⟨texts, model.pieces.map bare.summary, each, joined, all model.pieces, ?_⟩
    rw [done, summary_eq_total_pieces]
  · intro unit newline level generator writer once
    have starts : writer.atLineStart = true := rfl
    have unlimited : writer.store.room = none := rfl
    obtain ⟨done, content⟩ := generate_onto_unlimited generator model unit newline level
    obtain ⟨-, reached⟩ := generate_at_lineStart starts unlimited
    have left : once.sink.level = Step.endLevel level (generator.steps model) :=
      congrArg LineWriter.level reached
    refine ⟨generator.offeredText model writer, generator.summary model, done, content,
      fun inside => ?_, fun same count => ?_, fun beyond => ?_⟩
    · rw [left, endLevel_steps inside]
    · have passes := map_generateTimes count same starts unlimited
      have start : writer.store.content = ByteArray.empty := rfl
      simp only [start, ByteArray.empty_append] at passes
      rw [left]
      exact passes
    · exact ((lays_steps generator model level).meetsTop beyond).written unit newline

/-- Two passes from level five on. -/
theorem generate_is_local_twice :
    let generator : Generator := ⟨.stock, Spelling.csharp⟩
    let writer := LineWriter.onto .unlimited "\t" "\n" 5
    generator.InRange depositModel 5 ∧ ∃ text summary,
      (generator.generateTimes depositModel 2 writer).map
          (fun pass => (pass.result, pass.sink.level, pass.sink.store.content)) =
        [(.ok summary, 5, (String.join [text]).toUTF8),
          (.ok summary, 5, (String.join [text, text]).toUTF8)] := by
  intro generator writer
  have inside : generator.InRange depositModel 5 := inRange_of_room _ _ (by decide)
  obtain ⟨-, passes⟩ := generate_is_local .stock Spelling.csharp depositModel
  obtain ⟨text, summary, -, -, level, repeated, -⟩ := passes "\t" "\n" 5
  have twice := repeated (.inl inside) 2
  rw [level inside] at twice
  exact ⟨inside, text, summary, twice⟩

end Generator

end MessageContracts
