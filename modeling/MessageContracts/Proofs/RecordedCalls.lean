import MessageContracts.Proofs.CutOutput

/-!
# Passes on a recording sink

A recording sink without a limit refuses nothing, and what it has recorded after a pass are the
calls of the pass, from the level of the sink on.
-/

namespace MessageContracts

namespace CallLog

variable {log : CallLog}

/-- The log after some more calls, at a level. -/
def after (log : CallLog) (calls : List SinkCall) (level : Level) : CallLog :=
  { log with recent := calls.reverse ++ log.recent, level }

/-- A log is recorded on by two rows of calls one after the other. -/
theorem after_append (log : CallLog) (first second : List SinkCall) (level last : Level) :
    (log.after first level).after second last = log.after (first ++ second) last := by
  simp only [after, List.reverse_append, List.append_assoc]

/-- A log without a limit records a call. -/
theorem record_eq (unlimited : log.room = none) (endsLine : Bool) (text : String) :
    record endsLine text log = .ok () (log.after [⟨endsLine, log.level, text⟩] log.level) := by
  simp only [record, unlimited, after]
  rfl

/-- After an action that is not refused the next one goes on from where it has led. -/
theorem andThen_eq {action next : EStateM OutputFault CallLog Unit} {reached : CallLog}
    (done : action log = .ok () reached) : (do action; next) log = next reached := by
  rw [andThen_apply, done]

/-- A log without a limit records lines of which the last stays open. -/
theorem putOpen_eq (unlimited : log.room = none) (lines : List String) :
    LineSink.putOpen lines log =
      .ok () (log.after (Operation.openCalls log.level lines) log.level) := by
  induction lines generalizing log with
  | nil => rfl
  | cons line rest ih =>
    cases rest with
    | nil => exact record_eq unlimited false line
    | cons second rest =>
      have later := @ih (log.after [⟨true, log.level, line⟩] log.level) unlimited
      rw [after_append] at later
      exact (andThen_eq (record_eq unlimited true line)).trans later

/-- A log without a limit records lines that all end. -/
theorem putClosed_eq (unlimited : log.room = none) (lines : List String) :
    LineSink.putClosed lines log =
      .ok () (log.after (Operation.closedCalls log.level lines) log.level) := by
  induction lines generalizing log with
  | nil => rfl
  | cons line rest ih =>
    have later := @ih (log.after [⟨true, log.level, line⟩] log.level) unlimited
    rw [after_append] at later
    exact (andThen_eq (record_eq unlimited true line)).trans later

/-- A log without a limit records the calls of an operation. -/
theorem perform_eq (unlimited : log.room = none) (operation : Operation) :
    operation.perform log =
      .ok () (log.after (operation.calls log.level) (operation.levelAfter log.level)) := by
  cases operation with
  | put content => exact record_eq unlimited false content
  | putLine content => exact record_eq unlimited true content
  | endLine => exact record_eq unlimited true ""
  | text content => exact putOpen_eq unlimited _
  | lines content => exact putClosed_eq unlimited _
  | fill template arguments => exact putOpen_eq unlimited _
  | fillLines template arguments => exact putClosed_eq unlimited _
  | setLevel level => rfl
  | indent => rfl
  | dedent => rfl

/-- A log without a limit records the calls of all operations. -/
theorem performAll_eq (unlimited : log.room = none) (operations : List Operation) :
    Operation.performAll operations log = .ok () (log.after
      (Operation.trace log.level operations) (Operation.endLevel log.level operations)) := by
  induction operations generalizing log with
  | nil => rfl
  | cons operation rest ih =>
    have later := @ih (log.after (operation.calls log.level)
      (operation.levelAfter log.level)) unlimited
    rw [after_append] at later
    exact (andThen_eq (perform_eq unlimited operation)).trans later

end CallLog

namespace Generator

/-- A pass on a new recording sink without a limit succeeds, and its calls are recorded. -/
theorem generate_recorded (generator : Generator) (model : Model) (level : Level)
    (refusal : Refusal) :
    let pass := generator.generate model (CallLog.create level none refusal)
    pass.result = .ok (generator.summary model) ∧
      pass.sink.calls = generator.calls model level ∧
      pass.sink.level = Step.endLevel level (generator.steps model) := by
  have run := @CallLog.performAll_eq (CallLog.create level none refusal) rfl
    ((generator.steps model).flatMap Step.operations)
  obtain ⟨done, reached⟩ := generate_of_ok run
  refine ⟨done, ?_, ?_⟩
  · rw [reached, CallLog.calls, CallLog.after, List.reverse_append, List.reverse_reverse]
    rfl
  · rw [reached]
    rfl

end Generator

end MessageContracts
