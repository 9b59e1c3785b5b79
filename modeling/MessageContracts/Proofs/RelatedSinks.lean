import MessageContracts.Proofs.Operation

/-!
# Relations between sinks that operations keep

An operation reaches a sink by its calls and by changes of level alone. A relation between the
states of two sinks that these keep, with the same outcome on both, is therefore kept by every
operation and by every row of operations. With one sink beside itself, the relation is an invariant.
-/

namespace MessageContracts

/-- The state that an action leaves, accepted or refused. -/
def settled {σ : Type} : EStateM.Result OutputFault σ Unit → σ
  | .ok _ later => later
  | .error _ stopped => stopped

/-- Two outcomes that agree: both accepted, or both refused with one fault, in related states. -/
inductive Agrees {σ τ : Type} (related : σ → τ → Prop) :
    EStateM.Result OutputFault σ Unit → EStateM.Result OutputFault τ Unit → Prop where
  /-- Both were accepted. -/
  | ok {one : σ} {other : τ} (states : related one other) :
    Agrees related (.ok () one) (.ok () other)
  /-- Both were refused. -/
  | error {one : σ} {other : τ} (fault : OutputFault) (states : related one other) :
    Agrees related (.error fault one) (.error fault other)

/-- A call of a sink. -/
inductive LineSink.Call where
  /-- Take a text and leave the line open. -/
  | put (text : String)
  /-- Take a text and end the line. -/
  | putLine (text : String)
  /-- End the current line. -/
  | endLine

namespace LineSink.Call

/-- Make a call of a sink. -/
def perform {σ : Type} [LineSink σ] : Call → EStateM OutputFault σ Unit
  | put text => LineSink.put text
  | putLine text => LineSink.putLine text
  | endLine => LineSink.endLine

/-- The call as it is recorded at a level. -/
def recorded (level : Nat) : Call → SinkCall
  | put text => ⟨false, level, text⟩
  | putLine text => ⟨true, level, text⟩
  | endLine => ⟨true, level, ""⟩

end LineSink.Call

/-- A relation between the states of two sinks that calls and changes of level keep. -/
structure KeptByCalls {σ τ : Type} [LineSink σ] [LineSink τ] (related : σ → τ → Prop) : Prop where
  /-- Related sinks take a call alike. -/
  call : ∀ (call : LineSink.Call) one other, related one other →
    Agrees related (call.perform one) (call.perform other)
  /-- Related sinks are at one level. -/
  level : ∀ one other, related one other → LineSink.level one = LineSink.level other
  /-- Set to one level, related sinks stay related. -/
  setLevel : ∀ level one other, related one other →
    related (LineSink.setLevel level one) (LineSink.setLevel level other)

variable {σ τ : Type} {related : σ → τ → Prop}

/-- Outcomes that agree leave related states. -/
theorem Agrees.settled {one : EStateM.Result OutputFault σ Unit}
    {other : EStateM.Result OutputFault τ Unit} (agree : Agrees related one other) :
    related (settled one) (settled other) := by
  cases agree with
  | ok states => exact states
  | error fault states => exact states

/-- Actions one after the other agree when each of them does. -/
theorem Agrees.bind {first second : EStateM OutputFault σ Unit}
    {firstOther secondOther : EStateM OutputFault τ Unit} {one : σ} {other : τ}
    (head : Agrees related (first one) (firstOther other))
    (tail : ∀ one other, related one other → Agrees related (second one) (secondOther other)) :
    Agrees related ((do first; second) one) ((do firstOther; secondOther) other) := by
  rw [andThen_apply, andThen_apply]
  generalize first one = outcome at head ⊢
  generalize firstOther other = outcomeOther at head ⊢
  cases head with
  | ok states => exact tail _ _ states
  | error fault states => exact .error fault states

namespace KeptByCalls

variable [LineSink σ] [LineSink τ] (kept : KeptByCalls related)

include kept

/-- Lines of which the last stays open are taken alike. -/
theorem putOpen (lines : List String) : ∀ one other, related one other →
    Agrees related (LineSink.putOpen lines one) (LineSink.putOpen lines other) := by
  induction lines with
  | nil => exact fun _ _ states => .ok states
  | cons line rest ih =>
    cases rest with
    | nil => exact kept.call (.put line)
    | cons second rest =>
      exact fun one other states => (kept.call (.putLine line) one other states).bind ih

/-- Lines that all end are taken alike. -/
theorem putClosed (lines : List String) : ∀ one other, related one other →
    Agrees related (LineSink.putClosed lines one) (LineSink.putClosed lines other) := by
  induction lines with
  | nil => exact fun _ _ states => .ok states
  | cons line rest ih =>
    exact fun one other states => (kept.call (.putLine line) one other states).bind ih

/-- Every operation keeps the relation, with the same outcome on both sinks. -/
theorem perform (operation : Operation) : ∀ one other, related one other →
    Agrees related (operation.perform one) (operation.perform other) := by
  intro one other states
  have level := kept.level one other states
  cases operation with
  | put content => exact kept.call (.put content) one other states
  | putLine content => exact kept.call (.putLine content) one other states
  | endLine => exact kept.call .endLine one other states
  | text content => exact kept.putOpen _ one other states
  | lines content => exact kept.putClosed _ one other states
  | fill template arguments => exact kept.putOpen _ one other states
  | fillLines template arguments => exact kept.putClosed _ one other states
  | setLevel level => exact .ok (kept.setLevel level one other states)
  | indent =>
    refine .ok ?_
    rw [LineSink.indent, LineSink.indent, level]
    exact kept.setLevel _ one other states
  | dedent =>
    refine .ok ?_
    rw [LineSink.dedent, LineSink.dedent, level]
    exact kept.setLevel _ one other states

/-- Every row of operations keeps the relation, with the same outcome on both sinks. -/
theorem performAll (operations : List Operation) : ∀ one other, related one other →
    Agrees related (Operation.performAll operations one)
      (Operation.performAll operations other) := by
  induction operations with
  | nil => exact fun _ _ states => .ok states
  | cons operation rest ih =>
    exact fun one other states => (kept.perform operation one other states).bind ih

end KeptByCalls

end MessageContracts
