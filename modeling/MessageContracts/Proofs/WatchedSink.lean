import MessageContracts.Proofs.RelatedSinks

/-!
# Sinks that are watched, and sinks that stop accepting

A watched sink keeps a record of the calls made of it, the refused ones included, and does otherwise
what the sink does by itself. A limited sink accepts so many calls and refuses every later one;
nothing else is known of it. What operations make of such a sink is known from their calls alone:
they make the calls that are accepted, then the one that is refused, and no further one.
-/

namespace MessageContracts

/-- A call together with the fault that refused it. -/
structure Attempt where
  /-- The call. -/
  call : SinkCall
  /-- The fault, absent when the call was accepted. -/
  fault : Option OutputFault
deriving DecidableEq, Repr

/-- A call that was accepted. -/
def Attempt.accepted (call : SinkCall) : Attempt := ⟨call, none⟩

/-- A sink with the calls that were made of it. -/
structure Watched (σ : Type) where
  /-- The sink. -/
  sink : σ
  /-- The calls made of it, in order. -/
  attempts : List Attempt

namespace Watched

variable {σ : Type}

/-- A sink of which no call has been made. -/
def start (sink : σ) : Watched σ := ⟨sink, []⟩

/-- The calls that the sink accepted. -/
def accepted (watched : Watched σ) : List SinkCall :=
  (watched.attempts.filter (·.fault.isNone)).map (·.call)

/-- What an action came to, without the record. -/
def unwatched : EStateM.Result OutputFault (Watched σ) Unit → EStateM.Result OutputFault σ Unit
  | .ok _ watched => .ok () watched.sink
  | .error fault watched => .error fault watched.sink

/-- An action on a watched sink does to the sink what another action does to it by itself. -/
def Mirrors (action : EStateM OutputFault (Watched σ) Unit) (bare : EStateM OutputFault σ Unit) :
    Prop :=
  ∀ watched, unwatched (action watched) = bare watched.sink

/-- A watched action that agrees with another one comes to the same, but for the record. -/
theorem unwatched_of_agrees {watched : EStateM.Result OutputFault (Watched σ) Unit}
    {bare : EStateM.Result OutputFault σ Unit}
    (agree : Agrees (fun (watched : Watched σ) (sink : σ) => watched.sink = sink) watched bare) :
    unwatched watched = bare := by
  cases agree with
  | ok same => rw [unwatched, same]
  | error fault same => rw [unwatched, same]

variable [LineSink σ]

/-- Make a call and take it down. -/
def watch (call : LineSink.Call) : EStateM OutputFault (Watched σ) Unit := fun watched =>
  let made := call.recorded (LineSink.level watched.sink)
  match call.perform watched.sink with
  | .ok _ sink => .ok () ⟨sink, watched.attempts ++ [⟨made, none⟩]⟩
  | .error fault sink => .error fault ⟨sink, watched.attempts ++ [⟨made, some fault⟩]⟩

instance : LineSink (Watched σ) where
  put text := watch (.put text)
  putLine text := watch (.putLine text)
  endLine := watch .endLine
  level watched := LineSink.level watched.sink
  setLevel level watched := { watched with sink := LineSink.setLevel level watched.sink }

/-- A watched call comes to what the call comes to. -/
theorem agrees_watch (call : LineSink.Call) (watched : Watched σ) :
    Agrees (fun (watched : Watched σ) (sink : σ) => watched.sink = sink)
      (watch call watched) (call.perform watched.sink) := by
  rw [watch]
  cases call.perform watched.sink with
  | ok _ sink => exact .ok rfl
  | error fault sink => exact .error fault rfl

/-- A call of a watched sink is a call that is watched. -/
theorem perform_call (call : LineSink.Call) :
    (call.perform : EStateM OutputFault (Watched σ) Unit) = watch call := by
  cases call <;> rfl

/-- A watched sink goes along with the sink by itself. -/
theorem keptByCalls :
    KeptByCalls fun (watched : Watched σ) (sink : σ) => watched.sink = sink where
  call call watched _ same := by
    rw [perform_call, ← same]
    exact agrees_watch call watched
  level _ _ same := congrArg LineSink.level same
  setLevel level _ _ same := congrArg (LineSink.setLevel level) same

/-- Watching changes nothing about operations. -/
theorem Mirrors.performAll (operations : List Operation) :
    Mirrors (σ := σ) (Operation.performAll operations) (Operation.performAll operations) :=
  fun watched => unwatched_of_agrees (keptByCalls.performAll operations watched watched.sink rfl)

end Watched

/-- Sinks that accept so many calls from where they are, and refuse every later one. -/
structure LimitedSink (σ : Type) [LineSink σ] where
  /-- How many more calls are accepted; `none` means any number. -/
  room : σ → Option Nat
  /-- The level is the one that was set last. -/
  level_setLevel : ∀ level sink, LineSink.level (LineSink.setLevel level sink : σ) = level
  /-- Setting the level is no call. -/
  room_setLevel : ∀ level sink, room (LineSink.setLevel level sink) = room sink
  /-- While there is room a call is accepted and takes one place of it. -/
  accepts : ∀ (call : LineSink.Call) sink, room sink ≠ some 0 → ∃ later,
    call.perform sink = .ok () later ∧ room later = (room sink).map (· - 1) ∧
      LineSink.level later = LineSink.level sink
  /-- Without room a call is refused, with whatever fault. -/
  refuses : ∀ (call : LineSink.Call) sink, room sink = some 0 → ∃ fault stopped,
    call.perform sink = .error fault stopped ∧ room stopped = some 0 ∧
      LineSink.level stopped = LineSink.level sink

namespace LimitedSink

variable {σ : Type} [LineSink σ] (gate : LimitedSink σ)

/-- An action makes calls of a watched sink, up to the one that is refused, and leaves it at a level
when none is. -/
structure Makes (gate : LimitedSink σ) (action : EStateM OutputFault (Watched σ) Unit)
    (watched : Watched σ) (calls : List SinkCall) (level : Level) : Prop where
  /-- With room for all of the calls they are all made. -/
  accepted : (∀ n, gate.room watched.sink = some n → calls.length ≤ n) → ∃ later,
    action watched = .ok () later ∧
      later.attempts = watched.attempts ++ calls.map .accepted ∧
      gate.room later.sink = (gate.room watched.sink).map (· - calls.length) ∧
      LineSink.level later.sink = level
  /-- With less room the calls end with the one that is refused. -/
  refused : ∀ n call, gate.room watched.sink = some n → calls[n]? = some call → ∃ fault stopped,
    action watched = .error fault stopped ∧
      stopped.attempts = watched.attempts ++ (calls.take n).map .accepted ++ [⟨call, some fault⟩] ∧
      (LineSink.level stopped.sink).count = call.level

variable {gate} {action next : EStateM OutputFault (Watched σ) Unit} {watched : Watched σ}
variable {calls later : List SinkCall} {level nextLevel : Level}

/-- Actions one after the other make all calls, the second from the level that the first leaves. -/
theorem Makes.bind (first : Makes gate action watched calls level)
    (second : ∀ reached : Watched σ, LineSink.level reached.sink = level →
      Makes gate next reached later nextLevel) :
    Makes gate (do action; next) watched (calls ++ later) nextLevel := by
  have sequence := andThen_apply action next watched
  constructor
  · intro fits
    have head : ∀ n, gate.room watched.sink = some n → calls.length ≤ n := by
      intro n room
      have both := fits n room
      rw [List.length_append] at both
      omega
    obtain ⟨reached, done, attempts, left, atLevel⟩ := first.accepted head
    have tail : ∀ n, gate.room reached.sink = some n → later.length ≤ n := by
      intro n room
      rw [left] at room
      obtain ⟨before, limit, rfl⟩ := Option.map_eq_some_iff.mp room
      have both := fits before limit
      rw [List.length_append] at both
      omega
    obtain ⟨ended, finished, allAttempts, nowLeft, endLevel⟩ :=
      (second reached atLevel).accepted tail
    refine ⟨ended, ?_, ?_, ?_, endLevel⟩
    · rw [sequence, done]
      exact finished
    · rw [allAttempts, attempts, List.map_append, List.append_assoc]
    · rw [nowLeft, left, Option.map_map, List.length_append]
      congr 1
      funext n
      exact Nat.sub_sub n calls.length later.length
  · intro n call room found
    rcases Nat.lt_or_ge n calls.length with early | late
    · rw [List.getElem?_append_left early] at found
      obtain ⟨fault, stopped, failed, attempts, atLevel⟩ := first.refused n call room found
      refine ⟨fault, stopped, ?_, ?_, atLevel⟩
      · rw [sequence, failed]
      · rw [attempts, List.take_append_of_le_length (Nat.le_of_lt early)]
    · rw [List.getElem?_append_right late] at found
      have head : ∀ m, gate.room watched.sink = some m → calls.length ≤ m := by
        intro m limit
        rw [room] at limit
        cases limit
        exact late
      obtain ⟨reached, done, attempts, left, atLevel⟩ := first.accepted head
      rw [room] at left
      obtain ⟨fault, stopped, failed, allAttempts, endLevel⟩ :=
        (second reached atLevel).refused (n - calls.length) call left found
      refine ⟨fault, stopped, ?_, ?_, endLevel⟩
      · rw [sequence, done]
        exact failed
      · rw [allAttempts, attempts, List.take_append, List.take_of_length_le late, List.map_append]
        simp only [List.append_assoc]

end LimitedSink

end MessageContracts
