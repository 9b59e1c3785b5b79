import MessageContracts.LineSink

/-!
# A sink that records its calls

The recorder takes any text and keeps it with the level of the call. It may be limited to a number
of calls; the next one after those is refused and not recorded.
-/

namespace MessageContracts

/-- A call that a sink accepted. -/
structure SinkCall where
  /-- Whether the call ended the line. -/
  endsLine : Bool
  /-- The level at the call. -/
  level : Nat
  /-- The text of the call. -/
  text : String
deriving DecidableEq, Repr

/-- A recording sink. -/
structure CallLog where
  /-- The accepted calls, the latest first. -/
  recent : List SinkCall
  /-- The current indent level. -/
  level : Level
  /-- How many more calls are accepted; `none` means any number. -/
  room : Option Nat
  /-- The answer when no call is accepted any more. -/
  refusal : Refusal

namespace CallLog

/-- A recorder without calls. -/
def create (level : Level) (room : Option Nat) (refusal : Refusal) : CallLog :=
  ⟨[], level, room, refusal⟩

/-- The accepted calls in order. -/
def calls (log : CallLog) : List SinkCall := log.recent.reverse

/-- Record a call, or refuse it. -/
def record (endsLine : Bool) (text : String) : EStateM OutputFault CallLog Unit := fun log =>
  let recent := ⟨endsLine, log.level, text⟩ :: log.recent
  match log.room with
  | none => .ok () { log with recent }
  | some 0 => .error log.refusal.fault log
  | some (room + 1) => .ok () { log with recent, room := some room }

instance : LineSink CallLog where
  put := record false
  putLine := record true
  level := level
  setLevel level log := { log with level }

end CallLog

end MessageContracts
