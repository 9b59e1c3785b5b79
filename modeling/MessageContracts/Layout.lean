import MessageContracts.LineSink

/-!
# Indented text over a store

The writer puts the indent in front of a line when the first text of the line arrives, so a line
without text carries no indent. A change of level takes effect with the next line. The line counts
as started once its indent has been accepted in full.
-/

namespace MessageContracts

/-- A writer that lays out lines over a store. -/
structure LineWriter where
  /-- The text that one level contributes to an indent. -/
  unit : String
  /-- The text that ends a line. -/
  newline : String
  /-- The current indent level. -/
  level : Level
  /-- Whether the next text starts a line. -/
  atLineStart : Bool
  /-- Where the bytes go. -/
  store : Store

namespace LineWriter

/-- The unit of an indent unless another is configured: four spaces. -/
def stockUnit : String := "    "

/-- A writer at the start of its first line. -/
def onto (store : Store) (unit newline : String) (level : Level) : LineWriter :=
  ⟨unit, newline, level, true, store⟩

/-- A writer with the stock layout over an empty store of unlimited room. -/
def fresh : LineWriter := onto .unlimited stockUnit "\n" 0

/-- Pass a text on to the store as it is. -/
def emit (text : String) : EStateM OutputFault LineWriter Unit := fun writer =>
  match Store.appendText text writer.store with
  | .ok _ store => .ok () { writer with store }
  | .error fault store => .error fault { writer with store }

/-- Pass so many indent units on to the store. -/
def emitUnits : Nat → EStateM OutputFault LineWriter Unit
  | 0 => pure ()
  | count + 1 => do emit (← get).unit; emitUnits count

/-- Bring the indent out, if the next text starts a line. -/
def startLine : EStateM OutputFault LineWriter Unit := do
  let writer ← get
  if writer.atLineStart then
    emitUnits writer.level
    modify fun writer => { writer with atLineStart := false }

/-- Write text; the empty text leaves everything as it is. -/
def put (text : String) : EStateM OutputFault LineWriter Unit :=
  if text = "" then pure ()
  else do
    startLine
    emit text

/-- Write text and end the line. -/
def putLine (text : String) : EStateM OutputFault LineWriter Unit := do
  put text
  emit (← get).newline
  modify fun writer => { writer with atLineStart := true }

/-- Ask the store to flush, which answers like this. -/
def flushedBy (answer : EStateM OutputFault Store Unit) : EStateM OutputFault LineWriter Unit :=
  fun writer =>
    match Store.flushedBy answer writer.store with
    | .ok _ store => .ok () { writer with store }
    | .error fault store => .error fault { writer with store }

/-- Ask the store to flush, which answers by its room. -/
def flush : EStateM OutputFault LineWriter Unit := flushedBy Store.answerByRoom

instance : LineSink LineWriter where
  put := put
  putLine := putLine
  level := level
  setLevel level writer := { writer with level }

end LineWriter

end MessageContracts
