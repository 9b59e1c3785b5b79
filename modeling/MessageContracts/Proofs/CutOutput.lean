import MessageContracts.Proofs.Delivery

/-!
# A generation pass over a store that may run out of room

A pass offers one text, which settings, spelling, model and layout fix before the store is asked.
With room for all of it the pass succeeds; with less it stops at the write that the store refuses,
and what the store then holds is the beginning of that very text, cut at the last byte that fits.
-/

namespace MessageContracts.Generator

variable (generator : Generator) (model : Model) {writer : LineWriter}

/-- The calls of a pass on a sink at this level. -/
def calls (generator : Generator) (model : Model) (level : Level) : List SinkCall :=
  Step.trace level (generator.steps model)

/-- A pass from this level on never raises the highest level. -/
def InRange (generator : Generator) (model : Model) (level : Level) : Prop :=
  Step.InRange level (generator.steps model)

/-- The text that a pass offers to the store of a writer. -/
def offeredText (generator : Generator) (model : Model) (writer : LineWriter) : String :=
  SinkCall.writtenAll writer.unit writer.newline writer.atLineStart
    (generator.calls model writer.level)

/-- Performing the steps of a pass offers the text of the pass. -/
theorem offers_offeredText (generator : Generator) (model : Model) (writer : LineWriter) :
    ∃ level atLineStart, LineWriter.Offers
      (Operation.performAll ((generator.steps model).flatMap Step.operations)) writer
      (generator.offeredText model writer) level atLineStart :=
  ⟨_, _, LineWriter.offers_performAll _ writer⟩

/-- A pass whose text fits writes it and succeeds. -/
theorem generate_of_fits
    (fits : writer.store.Fits (generator.offeredText model writer).toByteArray) :
    (generator.generate model writer).result = .ok (generator.summary model) ∧
      (generator.generate model writer).sink.store =
        writer.store.offered (generator.offeredText model writer).toByteArray := by
  obtain ⟨level, atLineStart, offers⟩ := offers_offeredText generator model writer
  obtain ⟨done, reached⟩ := generate_of_ok (offers.delivered fits)
  exact ⟨done, congrArg LineWriter.store reached⟩

/-- A pass whose text does not fit writes what fits and reports the refused write unchanged. -/
theorem generate_of_not_fits
    (unfit : ¬writer.store.Fits (generator.offeredText model writer).toByteArray) :
    (generator.generate model writer).result =
        .error (.output writer.store.refusal.writeFault) ∧
      (generator.generate model writer).sink.store =
        writer.store.offered (generator.offeredText model writer).toByteArray := by
  obtain ⟨level, atLineStart, offers⟩ := offers_offeredText generator model writer
  obtain ⟨stopped, refused, store⟩ := offers.refused unfit
  obtain ⟨failed, reached⟩ := generate_of_error refused
  exact ⟨failed, (congrArg LineWriter.store reached).trans store⟩

/-- A pass with unlimited room succeeds, and its store ends in its text. -/
theorem generate_of_room_eq_none (unlimited : writer.store.room = none) :
    (generator.generate model writer).result = .ok (generator.summary model) ∧
      (generator.generate model writer).sink.store.content =
        writer.store.content ++ (generator.offeredText model writer).toByteArray := by
  have fits : writer.store.Fits (generator.offeredText model writer).toByteArray :=
    Store.fits_of_room_eq_none unlimited
  obtain ⟨done, store⟩ := generate_of_fits generator model fits
  rw [store, Store.content_offered_of_fits fits]
  exact ⟨done, rfl⟩

/-- The text of a pass with the stock layout is what its store then holds, and there always is
one. -/
theorem sourceText_eq_some (generator : Generator) (model : Model) :
    generator.sourceText model = some (generator.offeredText model LineWriter.fresh) := by
  have unlimited : LineWriter.fresh.store.room = none := rfl
  obtain ⟨done, content⟩ := generate_of_room_eq_none generator model unlimited
  have valid : (generator.offeredText model LineWriter.fresh).toByteArray.IsValidUTF8 :=
    (generator.offeredText model LineWriter.fresh).isValidUTF8
  have start : LineWriter.fresh.store.content = ByteArray.empty := rfl
  rw [start, ByteArray.empty_append] at content
  simp only [sourceText, done, content, String.fromUTF8?, dif_pos valid]
  rfl

/-- A pass over a store with room for `n` more bytes adds the first `n` bytes of its text, asks for
no flush, and succeeds when these are all of them. -/
theorem generate_onto_limited (unit newline : String) (level : Level) (content : ByteArray)
    (n : Nat) (refusal : Refusal) (flushes : Nat) :
    let writer := LineWriter.onto ⟨content, some n, refusal, flushes⟩ unit newline level
    let bytes := (generator.offeredText model writer).toByteArray
    (generator.generate model writer).sink.store =
        ⟨content ++ bytes.extract 0 n, some (n - bytes.size), refusal, flushes⟩ ∧
      (generator.generate model writer).result =
        if bytes.size ≤ n then .ok (generator.summary model)
        else .error (.output refusal.writeFault) := by
  intro writer bytes
  have room : writer.store.Fits bytes ↔ bytes.size ≤ n := Store.fits_of_room_eq_some rfl
  by_cases short : bytes.size ≤ n
  · obtain ⟨done, reached⟩ := generate_of_fits generator model (room.mpr short)
    rw [if_pos short]
    exact ⟨reached, done⟩
  · obtain ⟨failed, reached⟩ := generate_of_not_fits generator model (mt room.mp short)
    rw [if_neg short]
    exact ⟨reached, failed⟩

/-- A pass over a new store with room for `n` bytes leaves the first `n` bytes of its text, and
succeeds when these are all of them. -/
theorem generate_onto_create (unit newline : String) (level : Level) (n : Nat) (refusal : Refusal) :
    let writer := LineWriter.onto (.create (some n) refusal) unit newline level
    let bytes := (generator.offeredText model writer).toByteArray
    (generator.generate model writer).sink.store.content = bytes.extract 0 (min n bytes.size) ∧
      (generator.generate model writer).result =
        if bytes.size ≤ n then .ok (generator.summary model)
        else .error (.output refusal.writeFault) := by
  intro writer bytes
  obtain ⟨reached, outcome⟩ :=
    generate_onto_limited generator model unit newline level .empty n refusal 0
  exact ⟨(congrArg Store.content reached).trans (Store.content_offered_create n refusal), outcome⟩

/-- The bytes that a pass with unlimited room writes to a new store are those of its text. -/
theorem generate_onto_unlimited (unit newline : String) (level : Level) :
    let writer := LineWriter.onto .unlimited unit newline level
    (generator.generate model writer).result = .ok (generator.summary model) ∧
      (generator.generate model writer).sink.store.content =
        (generator.offeredText model writer).toByteArray := by
  intro writer
  have unlimited : writer.store.room = none := rfl
  obtain ⟨done, content⟩ := generate_of_room_eq_none generator model unlimited
  exact ⟨done, content.trans ByteArray.empty_append⟩

/-- Over a store with room for `n` bytes, a pass leaves exactly the first `n` bytes that the same
pass writes with unlimited room. It succeeds when these are all of them, and otherwise reports the
fault of the first refused write: the one of the store, or that of a write of nothing. With the
stock layout the bytes are those of the source text. -/
theorem generate_cut_at_room (generator : Generator) (model : Model) (unit newline : String)
    (level : Level) (n : Nat) (refusal : Refusal) :
    let whole := generator.generate model (LineWriter.onto .unlimited unit newline level)
    let cut := generator.generate model
      (LineWriter.onto (.create (some n) refusal) unit newline level)
    let bytes := whole.sink.store.content
    whole.result = .ok (generator.summary model) ∧
      cut.sink.store.content = bytes.extract 0 (min n bytes.size) ∧
      cut.result = (if bytes.size ≤ n then .ok (generator.summary model)
        else .error (.output (match refusal with
          | .failing fault => fault
          | .silent => ⟨.writeZero, "failed to write whole buffer"⟩))) ∧
      ∃ text, generator.sourceText model = some text ∧
        text.toUTF8 = (generator.generate model
          (LineWriter.onto .unlimited "    " "\n" 0)).sink.store.content := by
  intro whole cut bytes
  obtain ⟨done, content⟩ := generate_onto_unlimited generator model unit newline level
  obtain ⟨-, stock⟩ := generate_onto_unlimited generator model "    " "\n" 0
  obtain ⟨kept, ended⟩ := generate_onto_create generator model unit newline level n refusal
  -- The text of a pass does not depend on the store.
  have same : bytes = (generator.offeredText model
      (.onto (.create (some n) refusal) unit newline level)).toByteArray := content
  rw [← same] at kept ended
  refine ⟨done, kept, ended.trans ?_, _, sourceText_eq_some generator model, stock.symm⟩
  cases refusal <;> rfl

end MessageContracts.Generator
