import MessageContracts.Proofs.InterruptedWrites

/-!
# Lines that are resumed after a refusal

A refusal need not be the end: room can be granted later, and the writer goes on. Every attempt to
make a call is taken down with the number of bytes that the store accepted of it. Whatever is asked
of a writer, in whatever order, the attempts tell how it goes on: a line that has not ended is
resumed without an indent exactly when one of the attempts on it brought its whole indent out.
-/

namespace MessageContracts

/-- An attempt to make a call of a writer. -/
structure WriteAttempt where
  /-- The call. -/
  call : SinkCall
  /-- How many bytes the store accepted of it. -/
  accepted : Nat
  /-- Whether all of it was accepted. -/
  succeeded : Bool
deriving DecidableEq, Repr

namespace WriteAttempt

/-- Whether an attempt to start a line with its text brought the whole indent out. What an attempt
says that goes on with a line is of no account, because that line has its indent already. -/
def indented (unit : String) (attempt : WriteAttempt) : Bool :=
  attempt.call.text != "" &&
    decide ((indentText unit attempt.call.level).utf8ByteSize ≤ attempt.accepted)

/-- Whether an attempt ended its line. -/
def endedLine (attempt : WriteAttempt) : Bool := attempt.succeeded && attempt.call.endsLine

/-- The attempts on the line that has not ended: those after the last one that ended a line. -/
def onOpenLine (attempts : List WriteAttempt) : List WriteAttempt :=
  attempts.foldl (fun line attempt => if attempt.endedLine then [] else line ++ [attempt]) []

/-- Whether the next text goes on with a line that has its indent: some attempt on that line brought
it out, or the line had it from the beginning. -/
def resumesLine (first : LineWriter) (attempts : List WriteAttempt) : Bool :=
  (onOpenLine attempts).any (·.indented first.unit) ||
    (!first.atLineStart && !attempts.any (·.endedLine))

/-- One more attempt either ends the line or is one on it. -/
theorem onOpenLine_append (attempts : List WriteAttempt) (attempt : WriteAttempt) :
    onOpenLine (attempts ++ [attempt]) =
      if attempt.endedLine then [] else onOpenLine attempts ++ [attempt] := by
  rw [onOpenLine, List.foldl_append]
  rfl

/-- The line goes on after one more attempt unless that one ended it, and then it has its indent if
it had it before or that one brought it out. -/
theorem resumesLine_append (first : LineWriter) (attempts : List WriteAttempt)
    (attempt : WriteAttempt) :
    resumesLine first (attempts ++ [attempt]) =
      (!attempt.endedLine && (resumesLine first attempts || attempt.indented first.unit)) := by
  rw [resumesLine, resumesLine, onOpenLine_append, List.any_append, List.any_cons, List.any_nil,
    Bool.or_false]
  cases ended : attempt.endedLine with
  | true => simp
  | false =>
    rw [if_neg Bool.false_ne_true, List.any_append, List.any_cons, List.any_nil, Bool.or_false,
      Bool.or_false, Bool.not_false, Bool.true_and]
    ac_rfl

variable {unit text : String} {endsLine succeeded : Bool} {level accepted : Nat}

/-- An attempt to start a line that got past its indent has brought it out. -/
theorem indented_of_le (filled : text ≠ "")
    (enough : (fragmentText unit true level text).utf8ByteSize ≤ accepted) :
    indented unit ⟨⟨endsLine, level, text⟩, accepted, succeeded⟩ = true := by
  rw [fragmentText_true filled, String.utf8ByteSize_append] at enough
  rw [indented, bne_iff_ne.mpr filled, Bool.true_and]
  exact decide_eq_true (Nat.le_trans (Nat.le_add_right _ _) enough)

/-- An attempt without text brings no indent out. -/
theorem indented_empty :
    indented unit ⟨⟨endsLine, level, ""⟩, accepted, succeeded⟩ = false := rfl

/-- After an attempt that succeeded, a line starts where the attempt ended one, or where it was to
start one and had no indent to bring out. -/
theorem startsNext_eq (start : Bool)
    (enough : (fragmentText unit start level text).utf8ByteSize ≤ accepted) :
    SinkCall.startsNext start ⟨endsLine, level, text⟩ =
      (endedLine ⟨⟨endsLine, level, text⟩, accepted, true⟩ ||
        (start && !indented unit ⟨⟨endsLine, level, text⟩, accepted, true⟩)) := by
  change (endsLine || (start && text == "")) = (endsLine || (start && !indented unit _))
  by_cases blank : text = ""
  · rw [blank, indented_empty]
    rfl
  · cases start with
    | false => rw [Bool.false_and, Bool.false_and]
    | true => rw [indented_of_le blank enough, beq_eq_false_iff_ne.mpr blank]; rfl

/-- After an attempt that was refused, a line starts where the attempt was to start one and did not
bring its indent out. -/
theorem startsAfterRefusal_eq (start : Bool) :
    SinkCall.startsAfterRefusal unit start accepted ⟨endsLine, level, text⟩ =
      (endedLine ⟨⟨endsLine, level, text⟩, accepted, false⟩ ||
        (start && !indented unit ⟨⟨endsLine, level, text⟩, accepted, false⟩)) := by
  have either : (text == "" || decide (accepted < (indentText unit level).utf8ByteSize)) =
      !indented unit ⟨⟨endsLine, level, text⟩, accepted, false⟩ := by
    rw [indented, Bool.not_and, bne, Bool.not_not, ← decide_not]
    simp only [Nat.not_le]
  rw [SinkCall.startsAfterRefusal, either]
  rfl

end WriteAttempt

/-- A writer with the attempts that were made on it. -/
structure LoggedWriter where
  /-- The writer. -/
  writer : LineWriter
  /-- The attempts, in order. -/
  attempts : List WriteAttempt

namespace LoggedWriter

/-- The log with an attempt at a call that left the writer like this. -/
def record (log : LoggedWriter) (call : LineSink.Call) (later : LineWriter) (succeeded : Bool) :
    LoggedWriter where
  writer := later
  attempts := log.attempts ++ [{
    call := call.recorded log.writer.level
    accepted := later.store.content.size - log.writer.store.content.size
    succeeded }]

/-- Make a call of the writer and take the attempt down. -/
def attempt (call : LineSink.Call) : EStateM OutputFault LoggedWriter Unit := fun log =>
  match call.perform log.writer with
  | .ok _ later => .ok () (log.record call later true)
  | .error fault stopped => .error fault (log.record call stopped false)

instance : LineSink LoggedWriter where
  put text := attempt (.put text)
  putLine text := attempt (.putLine text)
  endLine := attempt .endLine
  level log := log.writer.level
  setLevel level log := { log with writer := { log.writer with level } }

/-- The logged writer with the room of its store set. -/
def granted (room : Option Nat) (log : LoggedWriter) : LoggedWriter :=
  { log with writer := log.writer.granted room }

end LoggedWriter

/-- Something that can be asked of a writer. -/
inductive Request where
  /-- Perform an operation. -/
  | perform (operation : Operation)
  /-- Let the store accept so many more bytes; `none` means any number. -/
  | grant (room : Option Nat)

namespace Request

variable {σ : Type} [LineSink σ]

/-- The sink after a request. A refusal leaves it as it stopped. -/
def serve (granted : Option Nat → σ → σ) (sink : σ) : Request → σ
  | perform operation => settled (operation.perform sink)
  | grant room => granted room sink

/-- The sink after requests one after the other. -/
def serveAll (granted : Option Nat → σ → σ) (sink : σ) (requests : List Request) : σ :=
  requests.foldl (serve granted) sink

end Request

namespace LineWriter

variable {writer : LineWriter}

/-- A call that fits is accepted. -/
theorem call_of_fits (call : LineSink.Call)
    (fits : writer.store.Fits ((call.recorded writer.level).written writer.unit writer.newline
      writer.atLineStart).toByteArray) :
    call.perform writer = .ok () { writer with
      atLineStart := (call.recorded writer.level).startsNext writer.atLineStart
      store := writer.store.offered ((call.recorded writer.level).written writer.unit
        writer.newline writer.atLineStart).toByteArray } := by
  cases call with
  | put text =>
    rw [LineSink.Call.recorded, SinkCall.written_open] at fits ⊢
    exact (offers_put text writer).delivered fits
  | putLine text => exact (offers_putLine text writer).delivered fits
  | endLine => exact (offers_putLine "" writer).delivered fits

end LineWriter

namespace LoggedWriter

/-- The attempts on a writer tell whether the next text starts a line. -/
structure Tells (first : LineWriter) (log : LoggedWriter) : Prop where
  /-- The unit of the indent stays the same. -/
  unit : log.writer.unit = first.unit
  /-- A line starts where none is resumed. -/
  start : log.writer.atLineStart = !WriteAttempt.resumesLine first log.attempts

variable {first : LineWriter} {log : LoggedWriter}

/-- No attempts tell what the writer began with. -/
theorem Tells.nil (first : LineWriter) : Tells first ⟨first, []⟩ := by
  refine ⟨rfl, ?_⟩
  change first.atLineStart = !(!first.atLineStart && true)
  rw [Bool.and_true, Bool.not_not]

/-- One more attempt still tells it, when it moves the writer as attempts do. -/
theorem Tells.record (tells : Tells first log) {call : LineSink.Call} {later : LineWriter}
    {succeeded : Bool} {accepted : Nat} (sameUnit : later.unit = first.unit)
    (count : later.store.content.size = log.writer.store.content.size + accepted)
    (moved : later.atLineStart =
      (WriteAttempt.endedLine ⟨call.recorded log.writer.level, accepted, succeeded⟩ ||
        (log.writer.atLineStart && !WriteAttempt.indented first.unit
          ⟨call.recorded log.writer.level, accepted, succeeded⟩))) :
    Tells first (log.record call later succeeded) := by
  have taken : later.store.content.size - log.writer.store.content.size = accepted := by omega
  refine ⟨sameUnit, ?_⟩
  rw [LoggedWriter.record, taken, WriteAttempt.resumesLine_append, moved, tells.start,
    Bool.not_and, Bool.not_or, Bool.not_not]

/-- A logged call comes to what the call comes to, and its attempt tells how the writer goes on. -/
theorem agrees_attempt (call : LineSink.Call) (tells : Tells first log) :
    Agrees (fun log writer => log.writer = writer ∧ Tells first log)
      (attempt call log) (call.perform log.writer) := by
  let made := call.recorded log.writer.level
  let written := made.written log.writer.unit log.writer.newline log.writer.atLineStart
  by_cases fits : log.writer.store.Fits written.toByteArray
  · have accepted := LineWriter.call_of_fits call fits
    rw [attempt, accepted]
    have size : (log.writer.store.offered written.toByteArray).content.size =
        log.writer.store.content.size + written.utf8ByteSize := by
      rw [Store.content_offered_of_fits fits, ByteArray.size_append, String.size_toByteArray]
    have enough : (fragmentText first.unit log.writer.atLineStart made.level
        made.text).utf8ByteSize ≤ written.utf8ByteSize := by
      rw [← tells.unit]
      exact String.utf8ByteSize_append ▸ Nat.le_add_right _ _
    exact .ok ⟨rfl, tells.record tells.unit size (WriteAttempt.startsNext_eq _ enough)⟩
  · obtain ⟨room, limit, short⟩ := Store.room_of_not_fits fits
    have less : room < written.utf8ByteSize := by rwa [← String.size_toByteArray]
    have refused := LineWriter.call_of_short call limit less
    rw [attempt, refused]
    have size : (log.writer.store.offered written.toByteArray).content.size =
        log.writer.store.content.size + room := by
      rw [Store.offered, Store.taken, limit]
      change (log.writer.store.content ++ written.toByteArray.extract 0 room).size = _
      rw [ByteArray.size_append, ByteArray.size_extract]
      omega
    refine .error _ ⟨rfl, tells.record tells.unit size ?_⟩
    rw [← tells.unit]
    exact WriteAttempt.startsAfterRefusal_eq _

/-- A call of a logged writer is an attempt that is taken down. -/
theorem perform_call (call : LineSink.Call) :
    (call.perform : EStateM OutputFault LoggedWriter Unit) = attempt call := by
  cases call <;> rfl

/-- A logged writer goes along with the writer by itself, and its attempts tell how it goes on. -/
theorem keptByCalls (first : LineWriter) :
    KeptByCalls fun (log : LoggedWriter) writer => log.writer = writer ∧ Tells first log where
  call call log _ known := by
    rw [perform_call, ← known.1]
    exact agrees_attempt call known.2
  level _ _ known := congrArg LineWriter.level known.1
  setLevel level log _ known := by
    obtain ⟨rfl, tells⟩ := known
    exact ⟨rfl, tells.unit, tells.start⟩

/-- A request leaves the two of them going along. -/
theorem serve_known (request : Request) (tells : Tells first log) :
    (request.serve granted log).writer = request.serve LineWriter.granted log.writer ∧
      Tells first (request.serve granted log) := by
  cases request with
  | grant room => exact ⟨rfl, tells.unit, tells.start⟩
  | perform operation =>
    exact ((keptByCalls first).perform operation log log.writer ⟨rfl, tells⟩).settled

/-- So do requests one after the other. -/
theorem serveAll_known (requests : List Request) (tells : Tells first log) :
    (Request.serveAll granted log requests).writer =
        Request.serveAll LineWriter.granted log.writer requests ∧
      Tells first (Request.serveAll granted log requests) := by
  induction requests generalizing log with
  | nil => exact ⟨rfl, tells⟩
  | cons request rest ih =>
    obtain ⟨same, later⟩ := serve_known request tells
    rw [Request.serveAll, Request.serveAll, List.foldl_cons, List.foldl_cons, ← same]
    exact ih later

end LoggedWriter

namespace LineWriter

/-- A refusal leaves a writer well defined. With limited room every operation writes exactly the
beginning that fits of what it writes with unlimited room, and succeeds when that is all of it; how
a refused one leaves the writer is known from the line in which it was refused.

Whatever is asked of a writer, refused or not, and however much room is granted in between, the
attempts so far tell how it goes on: without an indent where some attempt on the line that has not
ended brought its indent out, or where that line had it from the beginning, and with the whole
indent of its level otherwise. -/
theorem refusal_leaves_line :
    (∀ (operation : Operation) (writer : LineWriter) (room : Nat),
      ∃ whole reached, CutAt operation writer room whole reached) ∧
    ∀ (first : LineWriter) (requests : List Request),
      let log := Request.serveAll LoggedWriter.granted ⟨first, []⟩ requests
      let resumed := WriteAttempt.resumesLine first log.attempts
      log.writer = Request.serveAll LineWriter.granted first requests ∧
      (log.writer.atLineStart = false ↔ resumed = true) ∧
      ∀ text, text ≠ "" → Offers (LineSink.put text) log.writer
        ((if resumed = true then "" else indentText first.unit log.writer.level) ++ text)
        log.writer.level false := by
  refine ⟨exists_cutAt, fun first requests => ?_⟩
  intro log resumed
  obtain ⟨same, tells⟩ := LoggedWriter.serveAll_known requests (.nil first)
  have start : log.writer.atLineStart = !resumed := tells.start
  refine ⟨same, ?_, fun text filled => ?_⟩
  · rw [start, Bool.not_eq_false']
  · have offers := offers_put text log.writer
    rw [start, tells.unit, beq_eq_false_iff_ne.mpr filled, Bool.and_false, fragmentText,
      if_neg filled] at offers
    cases known : resumed with
    | true => rwa [known] at offers
    | false => rwa [known] at offers

/-- An indent that is refused halfway is written again in full, and a newline that is refused leaves
the line open, to be resumed without an indent. -/
theorem refusal_leaves_line_twice :
    let first := LineWriter.onto (.create (some 3) .diskFull) "  " "\r\n" 2
    let requests := [Request.perform (.put "a"), .grant (some 5), .perform (.put "a"),
      .grant (some 2), .perform (.putLine "b")]
    let log := Request.serveAll LoggedWriter.granted ⟨first, []⟩ requests
    "c" ≠ "" ∧ log.writer.store.content = "       ab\r".toUTF8 ∧
      WriteAttempt.resumesLine first log.attempts = true ∧
      Offers (LineSink.put "c") log.writer "c" 2 false := by
  intro first requests log
  have filled : "c" ≠ "" := by decide
  have content : log.writer.store.content = "       ab\r".toUTF8 := by decide +kernel
  have resumed : WriteAttempt.resumesLine first log.attempts = true := by decide +kernel
  obtain ⟨-, goes_on⟩ := refusal_leaves_line
  have offers := (goes_on first requests).2.2 "c" filled
  rw [if_pos resumed] at offers
  exact ⟨filled, content, resumed, offers⟩

end LineWriter

end MessageContracts
