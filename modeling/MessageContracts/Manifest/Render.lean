import MessageContracts.Generation
import MessageContracts.Manifest

/-!
# Delivering the output that a manifest asks for

A delivery runs one generation pass with the manifest's layout over a store and then asks the store
to flush, once and only after a pass that has been accepted in full.
-/

namespace MessageContracts

/-- Why the output could not be delivered. -/
inductive RenderError where
  /-- The pass stopped. -/
  | write (error : GenerationError)
  /-- The store did not flush. -/
  | flush (fault : OutputFault)
deriving DecidableEq, Repr

namespace RenderError

/-- What failed. -/
def message : RenderError → String
  | write _ => "Failed to write generated source"
  | flush _ => "Failed to flush generated source"

/-- The wording of the innermost error. -/
def cause : RenderError → String
  | write error => error.cause.getD error.message
  | flush fault => fault.message

end RenderError

/-- The outcome of a delivery. -/
structure Delivery where
  /-- The store afterwards. -/
  store : Store
  /-- The events reported, in order. -/
  events : List Event
  /-- What was emitted, or why the delivery failed. -/
  result : Except RenderError Summary

namespace Manifest

/-- The generator that the manifest configures. -/
def generator (manifest : Manifest) : Generator := .ofSettings manifest.settings

/-- A writer with the manifest's layout over a store. -/
def writer (manifest : Manifest) (store : Store) : LineWriter :=
  .onto store manifest.layout.indent manifest.layout.lineEnding.text 0

/-- Generate the output for a model into a store and flush it, which the store answers like this. -/
def renderFlushedBy (manifest : Manifest) (answer : EStateM OutputFault Store Unit) (model : Model)
    (store : Store) : Delivery :=
  let pass := manifest.generator.generate model (manifest.writer store)
  match pass.result with
  | .error error => ⟨pass.sink.store, pass.events, .error (.write error)⟩
  | .ok summary =>
    match pass.sink.flushedBy answer with
    | .error fault writer => ⟨writer.store, pass.events, .error (.flush fault)⟩
    | .ok _ writer => ⟨writer.store, pass.events, .ok summary⟩

/-- Generate the output for a model into a store and flush it, which the store answers by its
room. -/
def render (manifest : Manifest) (model : Model) (store : Store) : Delivery :=
  manifest.renderFlushedBy Store.answerByRoom model store

end Manifest

end MessageContracts
