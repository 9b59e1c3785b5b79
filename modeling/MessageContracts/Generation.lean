import MessageContracts.Emission
import MessageContracts.Layout

/-!
# Running a generation pass

A pass performs its steps on a sink one after the other and stops at the first call that the sink
refuses. The sink keeps what it had accepted, and the pass keeps the events reported so far.
-/

namespace MessageContracts

/-- The outcome of performing steps on a sink. -/
structure Performance (σ : Type) where
  /-- The sink afterwards. -/
  sink : σ
  /-- The events reported, in order. -/
  events : List Event
  /-- The fault of the refused call, if one was refused. -/
  fault : Option OutputFault

namespace Step

variable {σ : Type} [LineSink σ]

/-- What a step does to a sink. -/
def perform : Step → EStateM OutputFault σ Unit
  | .text content => LineSink.putText content
  | .lines content => LineSink.putLines content
  | .endLine => LineSink.endLine
  | .indent => modify LineSink.indent
  | .dedent => modify LineSink.dedent
  | .report _ => pure ()

/-- The events of a step. -/
def events : Step → List Event
  | .report event => [event]
  | _ => []

/-- Perform steps up to the first refused call. -/
def performAll : List Step → σ → Performance σ
  | [], sink => ⟨sink, [], none⟩
  | step :: rest, sink =>
    match step.perform sink with
    | .error fault sink => ⟨sink, [], some fault⟩
    | .ok _ sink =>
      let later := performAll rest sink
      { later with events := step.events ++ later.events }

end Step

/-- Why no source text could be delivered. -/
inductive GenerationError where
  /-- The sink refused a call. -/
  | output (fault : OutputFault)
  /-- A template is malformed. -/
  | template (error : TemplateError)
  /-- The settings could not be read. -/
  | settings (message : String)
deriving DecidableEq, Repr

namespace GenerationError

/-- The wording of the error. -/
def message : GenerationError → String
  | .output fault => "output error: " ++ fault.message
  | .template error => error.message
  | .settings message => "configuration error: " ++ message

/-- The wording of the error behind this one. -/
def cause : GenerationError → Option String
  | .output fault => some fault.message
  | .template _ | .settings _ => none

end GenerationError

/-- The outcome of a generation pass. -/
structure Pass (σ : Type) where
  /-- The sink afterwards. -/
  sink : σ
  /-- The events reported, in order. -/
  events : List Event
  /-- What was emitted, or why the pass stopped. -/
  result : Except GenerationError Summary

namespace Generator

/-- Run a pass over the model on a sink. -/
def generate {σ : Type} [LineSink σ] (generator : Generator) (model : Model) (sink : σ) : Pass σ :=
  let performance := Step.performAll (generator.steps model) sink
  ⟨performance.sink, performance.events,
    match performance.fault with
    | none => .ok (generator.summary model)
    | some fault => .error (.output fault)⟩

/-- The text of a pass with the stock layout and unlimited room. -/
def sourceText (generator : Generator) (model : Model) : Option String :=
  let pass := generator.generate model LineWriter.fresh
  match pass.result with
  | .error _ => none
  | .ok _ => String.fromUTF8? pass.sink.store.content

end Generator

end MessageContracts
