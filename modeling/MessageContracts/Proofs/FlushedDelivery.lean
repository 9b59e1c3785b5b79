import MessageContracts.Manifest.Render
import MessageContracts.Proofs.SourceLayout

/-!
# What a delivery reports, and whether its output arrived

A store may also refuse to flush, for reasons of its own. A delivery is therefore followed over
stores that answer a flush in any way: it asks for one only when the last byte has been accepted,
and reports a success only when that one is granted.
-/

namespace MessageContracts

/-- The refused operation that a failure goes back to, if it goes back to one. -/
def RenderError.fault? : RenderError → Option OutputFault
  | .write (.output fault) => some fault
  | .write (.template _) => none
  | .write (.settings _) => none
  | .flush fault => some fault

/-- Whether a delivery failed with this message, and with this fault behind everything else. -/
def Delivery.FailsWith (delivery : Delivery) (message : String) (fault : OutputFault) : Prop :=
  ∃ error, delivery.result = .error error ∧ error.message = message ∧
    error.fault? = some fault ∧ error.cause = fault.message

namespace Manifest

variable (manifest : Manifest) (answer : EStateM OutputFault Store Unit) (model : Model)
  (store : Store)

/-- The pass of a delivery with room for `n` more bytes asks for no flush. It stops behind the first
`n` of the bytes that it writes with unlimited room, or writes all of them and succeeds. -/
theorem generate_writer_limited (content : ByteArray) (n : Nat) (refusal : Refusal)
    (flushes : Nat) :
    let bytes :=
      (manifest.generator.generate model (manifest.writer .unlimited)).sink.store.content
    let pass := manifest.generator.generate model
      (manifest.writer ⟨content, some n, refusal, flushes⟩)
    (n < bytes.size →
      pass.sink.store = ⟨content ++ bytes.extract 0 n, some 0, refusal, flushes⟩ ∧
      pass.result = .error (.output refusal.writeFault)) ∧
    (bytes.size ≤ n →
      pass.sink.store = ⟨content ++ bytes, some (n - bytes.size), refusal, flushes⟩ ∧
      pass.result = .ok (manifest.generator.summary model)) := by
  intro bytes pass
  -- The text of a pass does not depend on the store.
  have text : bytes = (manifest.generator.offeredText model
      (manifest.writer ⟨content, some n, refusal, flushes⟩)).toByteArray :=
    (Generator.generate_onto_unlimited manifest.generator model _ _ 0).2
  obtain ⟨reached, outcome⟩ : pass.sink.store =
        ⟨content ++ bytes.extract 0 n, some (n - bytes.size), refusal, flushes⟩ ∧
      pass.result = if bytes.size ≤ n then .ok (manifest.generator.summary model)
        else .error (.output refusal.writeFault) := by
    rw [text]
    exact Generator.generate_onto_limited manifest.generator model _ _ 0 content n refusal flushes
  constructor
  · intro short
    rw [Nat.sub_eq_zero_of_le (Nat.le_of_lt short)] at reached
    exact ⟨reached, outcome.trans (if_neg (Nat.not_le.mpr short))⟩
  · intro enough
    rw [← Nat.max_eq_left enough, ByteArray.extract_zero_max_size, Nat.max_eq_left enough]
      at reached
    exact ⟨reached, outcome.trans (if_pos enough)⟩

variable {manifest answer model store}

/-- After a pass that stopped, a delivery fails and asks for no flush. -/
theorem renderFlushedBy_of_error {error : GenerationError}
    (failed : (manifest.generator.generate model (manifest.writer store)).result = .error error) :
    let pass := manifest.generator.generate model (manifest.writer store)
    manifest.renderFlushedBy answer model store =
      ⟨pass.sink.store, pass.events, .error (.write error)⟩ := by
  simp only [renderFlushedBy, failed]

/-- After a pass that succeeded and a flush that is granted, a delivery succeeds. -/
theorem renderFlushedBy_of_ok {summary : Summary} {flushed : Store}
    (done : (manifest.generator.generate model (manifest.writer store)).result = .ok summary)
    (granted : Store.flushedBy answer
      (manifest.generator.generate model (manifest.writer store)).sink.store = .ok () flushed) :
    let pass := manifest.generator.generate model (manifest.writer store)
    manifest.renderFlushedBy answer model store = ⟨flushed, pass.events, .ok summary⟩ := by
  simp only [renderFlushedBy, done, LineWriter.flushedBy, granted]

/-- After a pass that succeeded and a flush that is refused, a delivery fails. -/
theorem renderFlushedBy_of_refused {summary : Summary} {fault : OutputFault} {refused : Store}
    (done : (manifest.generator.generate model (manifest.writer store)).result = .ok summary)
    (denied : Store.flushedBy answer
      (manifest.generator.generate model (manifest.writer store)).sink.store =
        .error fault refused) :
    let pass := manifest.generator.generate model (manifest.writer store)
    manifest.renderFlushedBy answer model store =
      ⟨refused, pass.events, .error (.flush fault)⟩ := by
  simp only [renderFlushedBy, done, LineWriter.flushedBy, denied]

/-- A delivery reports a success only for output that arrived. A manifest lays its output out as a
pass with its indent and its line ending does, and `n` bytes of it are accepted at most. If there
are more, the delivery fails with the fault of the store and never asks for a flush, however that
would have been answered. If there are not, it asks for one, after the last byte and no second time,
and the answer decides. -/
theorem render_delivers_or_fails (manifest : Manifest) (model : Model) (content : ByteArray)
    (n : Nat) (refusal : Refusal) (flushes : Nat) (answer : EStateM OutputFault Store Unit) :
    let generate := fun store : Store => manifest.generator.generate model
      (LineWriter.onto store manifest.layout.indent manifest.layout.lineEnding.text 0)
    let bytes := (generate .unlimited).sink.store.content
    let store : Store := ⟨content, some n, refusal, flushes⟩
    let pass := generate store
    let delivery := manifest.renderFlushedBy answer model store
    let written : Store := ⟨content ++ bytes, some (n - bytes.size), refusal, flushes⟩
    let asked : Store := { written with flushes := flushes + 1 }
    manifest.render model store = manifest.renderFlushedBy Store.answerByRoom model store ∧
      delivery.events = pass.events ∧
      (n < bytes.size →
        pass.sink.store = ⟨content ++ bytes.extract 0 n, some 0, refusal, flushes⟩ ∧
        delivery.store = pass.sink.store ∧
        delivery.FailsWith "Failed to write generated source" refusal.writeFault) ∧
      (bytes.size ≤ n → pass.sink.store = written ∧
        ∃ summary, pass.result = .ok summary ∧
          match answer.run asked with
          | .ok () flushed => delivery.store = flushed ∧ delivery.result = .ok summary
          | .error fault refused => delivery.store = refused ∧
              delivery.FailsWith "Failed to flush generated source" fault) ∧
      ∀ summary, delivery.result = .ok summary →
        bytes.size ≤ n ∧ answer.run asked = .ok () delivery.store := by
  intro generate bytes store pass delivery written asked
  obtain ⟨cut, whole⟩ := generate_writer_limited manifest model content n refusal flushes
  have same : manifest.render model store =
      manifest.renderFlushedBy Store.answerByRoom model store := rfl
  rcases Nat.lt_or_ge n bytes.size with short | enough
  · obtain ⟨reached, failed⟩ := cut short
    have stopped : delivery =
        ⟨pass.sink.store, pass.events, .error (.write (.output refusal.writeFault))⟩ :=
      renderFlushedBy_of_error failed
    have refused := congrArg Delivery.result stopped
    refine ⟨same, congrArg Delivery.events stopped, fun _ => ⟨reached, ?_, ?_⟩,
      fun enough => absurd enough (Nat.not_le.mpr short), ?_⟩
    · exact congrArg Delivery.store stopped
    · exact ⟨_, refused, rfl, rfl, rfl⟩
    · intro summary given
      cases refused.symm.trans given
  · obtain ⟨arrived, done⟩ := whole enough
    have asking : Store.flushedBy answer pass.sink.store = answer.run asked :=
      congrArg (Store.flushedBy answer) arrived
    cases answered : answer.run asked with
    | ok _ flushed =>
      have delivered : delivery = ⟨flushed, pass.events, .ok (manifest.generator.summary model)⟩ :=
        renderFlushedBy_of_ok done (asking.trans answered)
      have kept := congrArg Delivery.store delivered
      have succeeded := congrArg Delivery.result delivered
      refine ⟨same, congrArg Delivery.events delivered,
        fun short => absurd enough (Nat.not_le.mpr short),
        fun _ => ⟨arrived, _, done, kept, succeeded⟩, ?_⟩
      intro _ _
      exact ⟨enough, congrArg (EStateM.Result.ok ()) kept.symm⟩
    | error fault refused =>
      have stopped : delivery = ⟨refused, pass.events, .error (.flush fault)⟩ :=
        renderFlushedBy_of_refused done (asking.trans answered)
      have failed := congrArg Delivery.result stopped
      refine ⟨same, congrArg Delivery.events stopped,
        fun short => absurd enough (Nat.not_le.mpr short),
        fun _ => ⟨arrived, _, done, congrArg Delivery.store stopped, _, failed, rfl, rfl, rfl⟩, ?_⟩
      intro summary given
      cases failed.symm.trans given

/-- With tabs and carriage returns, nothing but a region takes 43 bytes. A room of 43 takes the last
of them, and the flush is refused. In a room of 42 the last one is missing, and no flush is asked
for. -/
theorem render_delivers_or_fails_lastByte :
    let manifest : Manifest := ⟨.stock, ⟨"\t", .crlf⟩⟩
    let text := "#region Generated by Code DSL\r\n#endregion\r\n"
    let delivery := fun room : Nat => manifest.render ⟨[], []⟩ ⟨.empty, some room, .diskFull, 0⟩
    text.toByteArray.size = 43 ∧
      ((delivery 43).store = ⟨.empty ++ text.toByteArray, some 0, .diskFull, 1⟩ ∧
        (delivery 43).FailsWith "Failed to flush generated source" ⟨.other, "disk full"⟩) ∧
      (delivery 42).store =
          ⟨.empty ++ text.toByteArray.extract 0 42, some 0, .diskFull, 0⟩ ∧
        (delivery 42).FailsWith "Failed to write generated source" ⟨.other, "disk full"⟩ := by
  intro manifest text delivery
  have rows : Outline.text "\t" "\r\n" (manifest.generator.outline ⟨[], []⟩ 0) = text := by
    decide +kernel
  have bytes : (manifest.generator.generate ⟨[], []⟩ (LineWriter.onto .unlimited
      manifest.layout.indent manifest.layout.lineEnding.text 0)).sink.store.content =
        text.toByteArray := by
    rw [(Generator.generate_onto_unlimited _ _ _ _ _).2,
      Generator.offeredText_onto (.inl (Generator.inRange_zero _ _))]
    exact congrArg String.toByteArray rows
  have size : text.toByteArray.size = 43 := by decide +kernel
  have taken := render_delivers_or_fails manifest ⟨[], []⟩ .empty 43 .diskFull 0 Store.answerByRoom
  have cut := render_delivers_or_fails manifest ⟨[], []⟩ .empty 42 .diskFull 0 Store.answerByRoom
  dsimp only at taken cut
  rw [bytes, size] at taken cut
  obtain ⟨same, -, -, enough, -⟩ := taken
  obtain ⟨other, -, short, -, -⟩ := cut
  obtain ⟨-, _, -, asked, refused⟩ := enough (Nat.le_refl 43)
  obtain ⟨written, unasked, failed⟩ := short (Nat.lt_succ_self 42)
  rw [← same] at asked refused
  rw [written, ← other] at unasked
  rw [← other] at failed
  exact ⟨size, ⟨asked, refused⟩, unasked, failed⟩

end Manifest

end MessageContracts
