/-!
# A byte store with limited room

A store accepts bytes at its end while it has room. A write that does not fit is cut at the last
byte that fits, and the next attempt to go on is refused.
-/

namespace MessageContracts

/-- The class of a refused operation. -/
inductive FaultKind where
  /-- No more particular class. -/
  | other
  /-- The operation took too long. -/
  | timedOut
  /-- The operation is not allowed. -/
  | permissionDenied
  /-- The other end is gone. -/
  | brokenPipe
  /-- The receiver took nothing of a write that was not empty. -/
  | writeZero
deriving DecidableEq, Repr

/-- A refused operation. -/
structure OutputFault where
  /-- The class of the fault. -/
  kind : FaultKind
  /-- The wording of the fault. -/
  message : String
deriving DecidableEq, Repr

/-- How a store without room answers. -/
inductive Refusal where
  /-- With a fault of its own. -/
  | failing (fault : OutputFault)
  /-- By taking no byte, without a fault of its own. -/
  | silent
deriving DecidableEq, Repr

namespace Refusal

/-- With a fault of no particular class. -/
def diskFull : Refusal := .failing ⟨.other, "disk full"⟩

/-- With a time-out. -/
def tooSlow : Refusal := .failing ⟨.timedOut, "too slow"⟩

/-- With a denied permission. -/
def denied : Refusal := .failing ⟨.permissionDenied, "permission denied"⟩

/-- With a closed connection. -/
def closed : Refusal := .failing ⟨.brokenPipe, "closed"⟩

/-- The fault of an operation that is refused as a whole. -/
def fault : Refusal → OutputFault
  | .failing fault => fault
  | .silent => ⟨.brokenPipe, "closed"⟩

/-- The fault of a write: a store that takes no byte leaves it to the writer to give up. -/
def writeFault : Refusal → OutputFault
  | .failing fault => fault
  | .silent => ⟨.writeZero, "failed to write whole buffer"⟩

end Refusal

/-- A byte store. -/
structure Store where
  /-- What has been accepted so far. -/
  content : ByteArray
  /-- How many more bytes are accepted; `none` means any number. -/
  room : Option Nat
  /-- The answer when there is no room. -/
  refusal : Refusal
  /-- How often the store was asked to flush. -/
  flushes : Nat

namespace Store

/-- An empty store. -/
def create (room : Option Nat) (refusal : Refusal) : Store := ⟨.empty, room, refusal, 0⟩

/-- An empty store that accepts everything. -/
def unlimited : Store := create none .closed

/-- Append the bytes, or as many as fit before failing. -/
def append (bytes : ByteArray) : EStateM OutputFault Store Unit := fun store =>
  match store.room with
  | none => .ok () { store with content := store.content ++ bytes }
  | some room =>
    if bytes.size ≤ room then
      .ok () { store with content := store.content ++ bytes, room := some (room - bytes.size) }
    else
      .error store.refusal.writeFault
        { store with content := store.content ++ bytes.extract 0 room, room := some 0 }

/-- Append a text in UTF-8. -/
def appendText (text : String) : EStateM OutputFault Store Unit := append text.toUTF8

/-- Count the request to flush, and answer it like this. -/
def flushedBy (answer : EStateM OutputFault Store Unit) : EStateM OutputFault Store Unit :=
  fun store => answer.run { store with flushes := store.flushes + 1 }

/-- Refuse where there is no room left, as a store does that flushes by itself. -/
def answerByRoom : EStateM OutputFault Store Unit := fun store =>
  if store.room = some 0 then .error store.refusal.fault store else .ok () store

end Store

end MessageContracts
