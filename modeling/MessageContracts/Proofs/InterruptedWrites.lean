import MessageContracts.Proofs.JoinedWrites
import MessageContracts.Proofs.WatchedSink

/-!
# Where a refused write leaves the writer

A write can be refused within the indent, within the text, or within the newline, and in any of the
lines of a text. The lines before the refused one have then been written in full, the level is what
it was, and the next text starts a line exactly when the refused one was to start a line and either
has no text or did not bring its whole indent out.
-/

namespace MessageContracts

/-- Whether a text still starts a line after a call that was refused with this room left. -/
def SinkCall.startsAfterRefusal (unit : String) (atLineStart : Bool) (room : Nat)
    (call : SinkCall) : Bool :=
  atLineStart &&
    (call.text == "" || decide (room < (indentText unit call.level).utf8ByteSize))

namespace LineWriter

/-- The text that calls come to on a writer. -/
def callText (writer : LineWriter) (calls : List SinkCall) : String :=
  SinkCall.writtenAll writer.unit writer.newline writer.atLineStart calls

variable {writer : LineWriter} {text : String} {room : Nat}

/-- With limited room a text fits when it has no more bytes than that. -/
theorem fits_iff_of_room (limit : writer.store.room = some room) :
    writer.store.Fits text.toByteArray ↔ text.utf8ByteSize ≤ room := by
  rw [Store.fits_of_room_eq_some limit, String.size_toByteArray]

/-- A text that does not fit is refused where the room ends. -/
theorem emit_of_not_fits (unfit : ¬writer.store.Fits text.toByteArray) :
    emit text writer = .error writer.store.refusal.writeFault
      { writer with store := writer.store.offered text.toByteArray } := by
  rw [emit, Store.appendText, String.toUTF8_eq_toByteArray, Store.append_of_not_fits unfit]

/-- An indent that does not fit is refused where the room ends. -/
theorem emitUnits_of_not_fits {count : Nat}
    (unfit : ¬writer.store.Fits (indentText writer.unit count).toByteArray) :
    emitUnits count writer = .error writer.store.refusal.writeFault
      { writer with
        store := writer.store.offered (indentText writer.unit count).toByteArray } := by
  induction count generalizing writer with
  | zero => exact absurd Store.fits_empty unfit
  | succ count ih =>
    have sequence : emitUnits (count + 1) writer = (do emit writer.unit; emitUnits count) writer :=
      rfl
    rw [indentText_succ, String.toByteArray_append] at unfit ⊢
    by_cases head : writer.store.Fits writer.unit.toByteArray
    · have tail : ¬(writer.store.offered writer.unit.toByteArray).Fits
          (indentText writer.unit count).toByteArray :=
        fun fits => unfit (Store.fits_append.mpr ⟨head, fits⟩)
      rw [sequence, andThen_apply, (offers_emit writer.unit writer).delivered head,
        Store.offered_append]
      exact ih tail
    · rw [sequence, andThen_apply, emit_of_not_fits head, Store.offered_append,
        Store.offered_of_not_fits head]

/-- The empty piece is never too long. -/
theorem ne_empty_of_short {unit : String} {start : Bool} {level : Nat}
    (short : room < (fragmentText unit start level text).utf8ByteSize) : text ≠ "" := by
  intro blank
  rw [blank, fragmentText_empty] at short
  exact absurd short (Nat.not_lt_zero room)

/-- Whether a line was started by a refused piece of it depends on the indent alone. -/
theorem startsAfterRefusal_of_ne_empty {unit : String} {start endsLine : Bool} {level : Nat}
    (filled : text ≠ "") :
    SinkCall.startsAfterRefusal unit start room ⟨endsLine, level, text⟩ =
      (start && decide (room < (indentText unit level).utf8ByteSize)) := by
  rw [SinkCall.startsAfterRefusal, beq_eq_false_iff_ne.mpr filled, Bool.false_or]

/-- A piece with all of which the room could do has started its line if it is not empty. -/
theorem startsAfterRefusal_of_le {unit : String} {start endsLine : Bool} {level : Nat}
    (long : (fragmentText unit start level text).utf8ByteSize ≤ room) :
    SinkCall.startsAfterRefusal unit start room ⟨endsLine, level, text⟩ =
      (start && text == "") := by
  by_cases blank : text = ""
  · rw [SinkCall.startsAfterRefusal, beq_iff_eq.mpr blank, Bool.true_or]
  · rw [startsAfterRefusal_of_ne_empty blank, beq_eq_false_iff_ne.mpr blank, Bool.and_false]
    cases start with
    | false => rfl
    | true =>
      rw [fragmentText_true blank, String.utf8ByteSize_append] at long
      exact decide_eq_false (by omega)

/-- A piece that does not fit is refused where the room ends. The line has started if the indent
fitted, and otherwise is as it was. -/
theorem put_of_short (limit : writer.store.room = some room)
    (short : room <
      (fragmentText writer.unit writer.atLineStart writer.level text).utf8ByteSize) :
    put text writer = .error writer.store.refusal.writeFault
      { writer with
        atLineStart := writer.atLineStart &&
          decide (room < (indentText writer.unit writer.level).utf8ByteSize)
        store := writer.store.offered
          (fragmentText writer.unit writer.atLineStart writer.level text).toByteArray } := by
  have filled : text ≠ "" := ne_empty_of_short short
  rw [put_of_ne_empty filled, andThen_apply]
  by_cases starts : writer.atLineStart = true
  · rw [starts, fragmentText_true filled] at short
    have unfit : ¬writer.store.Fits
        (indentText writer.unit writer.level ++ text).toByteArray := by
      rw [fits_iff_of_room limit]
      omega
    rw [starts, fragmentText_true filled, String.toByteArray_append, Bool.true_and]
    rw [String.toByteArray_append] at unfit
    by_cases head : writer.store.Fits (indentText writer.unit writer.level).toByteArray
    · have tail : ¬(writer.store.offered
          (indentText writer.unit writer.level).toByteArray).Fits text.toByteArray :=
        fun fits => unfit (Store.fits_append.mpr ⟨head, fits⟩)
      have enough : ¬room < (indentText writer.unit writer.level).utf8ByteSize :=
        Nat.not_lt.mpr ((fits_iff_of_room limit).mp head)
      have started := (offers_startLine writer).delivered
      rw [if_pos starts] at started
      rw [started head, decide_eq_false enough, Store.offered_append]
      exact emit_of_not_fits tail
    · have less : room < (indentText writer.unit writer.level).utf8ByteSize :=
        Nat.lt_of_not_le (mt (fits_iff_of_room limit).mpr head)
      rw [startLine_of_atLineStart starts, emitUnits_of_not_fits head, decide_eq_true less,
        Store.offered_append, Store.offered_of_not_fits head, ← starts]
  · have started : writer.atLineStart = false := Bool.eq_false_iff.mpr starts
    rw [started, fragmentText_false] at short
    have unfit : ¬writer.store.Fits text.toByteArray := by
      rw [fits_iff_of_room limit]
      omega
    rw [startLine_of_started started, started, fragmentText_false, Bool.false_and, ← started]
    exact emit_of_not_fits unfit

/-- A line that does not fit is refused where the room ends. -/
theorem putLine_of_short (limit : writer.store.room = some room)
    (short : room < (SinkCall.written writer.unit writer.newline writer.atLineStart
      ⟨true, writer.level, text⟩).utf8ByteSize) :
    putLine text writer = .error writer.store.refusal.writeFault
      { writer with
        atLineStart := SinkCall.startsAfterRefusal writer.unit writer.atLineStart room
          ⟨true, writer.level, text⟩
        store := writer.store.offered (SinkCall.written writer.unit writer.newline
          writer.atLineStart ⟨true, writer.level, text⟩).toByteArray } := by
  rw [SinkCall.written_closed] at short ⊢
  rw [String.toByteArray_append, Store.offered_append, putLine, andThen_apply]
  by_cases head : writer.store.Fits
      (fragmentText writer.unit writer.atLineStart writer.level text).toByteArray
  · have tail : ¬(writer.store.offered (fragmentText writer.unit writer.atLineStart writer.level
        text).toByteArray).Fits writer.newline.toByteArray := by
      intro fits
      have both := Store.fits_append.mpr ⟨head, fits⟩
      rw [← String.toByteArray_append, fits_iff_of_room limit] at both
      omega
    rw [(offers_put text writer).delivered head,
      startsAfterRefusal_of_le ((fits_iff_of_room limit).mp head)]
    change (do emit writer.newline; modify _ : EStateM OutputFault LineWriter Unit) _ = _
    rw [andThen_apply, emit_of_not_fits tail]
    rfl
  · have less := Nat.lt_of_not_le (mt (fits_iff_of_room limit).mpr head)
    rw [put_of_short limit less, startsAfterRefusal_of_ne_empty (ne_empty_of_short less),
      Store.offered_of_not_fits head]

/-- A call that does not fit is refused where the room ends. -/
theorem call_of_short (call : LineSink.Call) (limit : writer.store.room = some room)
    (short : room < ((call.recorded writer.level).written writer.unit writer.newline
      writer.atLineStart).utf8ByteSize) :
    call.perform writer = .error writer.store.refusal.writeFault
      { writer with
        atLineStart := (call.recorded writer.level).startsAfterRefusal writer.unit
          writer.atLineStart room
        store := writer.store.offered ((call.recorded writer.level).written writer.unit
          writer.newline writer.atLineStart).toByteArray } := by
  cases call with
  | put text =>
    rw [LineSink.Call.recorded, SinkCall.written_open] at short ⊢
    rw [startsAfterRefusal_of_ne_empty (ne_empty_of_short short)]
    exact put_of_short limit short
  | putLine text => exact putLine_of_short limit short
  | endLine => exact putLine_of_short limit short

/-- An action that makes calls stops where the room ends. The calls before the refused one have been
written in full, and that one decides whether a line starts afterwards. -/
def Stops (action : EStateM OutputFault LineWriter Unit) (writer : LineWriter)
    (calls : List SinkCall) : Prop :=
  ∀ room, writer.store.room = some room → room < (writer.callText calls).utf8ByteSize →
    ∃ before refused after, calls = before ++ refused :: after ∧
      (writer.callText before).utf8ByteSize ≤ room ∧
      room < (writer.callText (before ++ [refused])).utf8ByteSize ∧
      action writer = .error writer.store.refusal.writeFault
        { writer with
          atLineStart := refused.startsAfterRefusal writer.unit
            (!before.isEmpty || writer.atLineStart)
            (room - (writer.callText before).utf8ByteSize)
          store := writer.store.offered (writer.callText calls).toByteArray }

/-- An action without calls does not stop. -/
theorem stops_nil (action : EStateM OutputFault LineWriter Unit) (writer : LineWriter) :
    Stops action writer [] := fun room _ short => absurd short (Nat.not_lt_zero room)

/-- A single call stops where the room ends. -/
theorem stops_call (call : LineSink.Call) (writer : LineWriter) :
    Stops call.perform writer [call.recorded writer.level] := by
  intro room limit short
  have single : writer.callText [call.recorded writer.level] =
      (call.recorded writer.level).written writer.unit writer.newline writer.atLineStart :=
    String.append_empty
  refine ⟨[], call.recorded writer.level, [], rfl, Nat.zero_le room, short, ?_⟩
  rw [single] at short ⊢
  exact call_of_short call limit short

/-- A line and then others stop where the room ends: within the line, or within the others, which
then begin at the start of a line and with the room that is left. -/
theorem stops_putLine {line : String} {next : EStateM OutputFault LineWriter Unit}
    {later : List SinkCall}
    (rest : ∀ store, Stops next { writer with atLineStart := true, store } later) :
    Stops (do putLine line; next) writer (⟨true, writer.level, line⟩ :: later) := by
  intro room limit short
  have sequence := andThen_apply (putLine line) next writer
  let first := SinkCall.written writer.unit writer.newline writer.atLineStart
    ⟨true, writer.level, line⟩
  let reached := { writer with
    atLineStart := true, store := writer.store.offered first.toByteArray }
  have split (calls : List SinkCall) :
      writer.callText (⟨true, writer.level, line⟩ :: calls) = first ++ reached.callText calls := rfl
  rw [split, String.toByteArray_append, Store.offered_append]
  by_cases head : writer.store.Fits first.toByteArray
  · have enough : first.utf8ByteSize ≤ room := (fits_iff_of_room limit).mp head
    have left : reached.store.room = some (room - first.utf8ByteSize) := by
      change (writer.store.offered first.toByteArray).room = _
      rw [Store.offered, limit, Option.map_some, String.size_toByteArray]
    rw [split, String.utf8ByteSize_append] at short
    have less : room - first.utf8ByteSize < (reached.callText later).utf8ByteSize := by omega
    obtain ⟨before, refused, after, calls, fitting, exceeding, stopped⟩ :=
      rest (writer.store.offered first.toByteArray) _ left less
    change (reached.callText before).utf8ByteSize ≤ _ at fitting
    change _ < (reached.callText (before ++ [refused])).utf8ByteSize at exceeding
    refine ⟨⟨true, writer.level, line⟩ :: before, refused, after, ?_, ?_, ?_, ?_⟩
    · rw [calls, List.cons_append]
    · rw [split, String.utf8ByteSize_append]
      omega
    · rw [List.cons_append, split, String.utf8ByteSize_append]
      omega
    · rw [sequence, (offers_putLine line writer).delivered head, split,
        String.utf8ByteSize_append, ← Nat.sub_sub]
      rw [Bool.or_true] at stopped
      exact stopped
  · have less : room < first.utf8ByteSize :=
      Nat.lt_of_not_le (mt (fits_iff_of_room limit).mpr head)
    have single : writer.callText [⟨true, writer.level, line⟩] = first := String.append_empty
    have refused := putLine_of_short limit less
    refine ⟨[], ⟨true, writer.level, line⟩, later, rfl, Nat.zero_le room, ?_, ?_⟩
    · rw [List.nil_append, single]
      exact less
    · rw [sequence, refused, Store.offered_of_not_fits head]
      rfl

/-- Lines of which the last stays open stop where the room ends. -/
theorem stops_putOpen (lines : List String) (writer : LineWriter) :
    Stops (LineSink.putOpen lines) writer (Operation.openCalls writer.level lines) := by
  induction lines generalizing writer with
  | nil => exact stops_nil _ writer
  | cons line rest ih =>
    cases rest with
    | nil => exact stops_call (.put line) writer
    | cons second rest =>
      exact stops_putLine fun store => ih { writer with atLineStart := true, store }

/-- Lines that all end stop where the room ends. -/
theorem stops_putClosed (lines : List String) (writer : LineWriter) :
    Stops (LineSink.putClosed lines) writer (Operation.closedCalls writer.level lines) := by
  induction lines generalizing writer with
  | nil => exact stops_nil _ writer
  | cons line rest ih =>
    exact stops_putLine fun store => ih { writer with atLineStart := true, store }

/-- An operation stops where the room ends. -/
theorem stops_perform (operation : Operation) (writer : LineWriter) :
    Stops operation.perform writer (operation.calls writer.level) := by
  cases operation with
  | put content => exact stops_call (.put content) writer
  | putLine content => exact stops_call (.putLine content) writer
  | endLine => exact stops_call .endLine writer
  | text content => exact stops_putOpen (Text.lines content) writer
  | lines content => exact stops_putClosed (Text.lines content) writer
  | fill template arguments => exact stops_putOpen (Text.lines (template.render arguments)) writer
  | fillLines template arguments =>
    exact stops_putClosed (Text.lines (template.render arguments)) writer
  | setLevel level => exact stops_nil _ writer
  | indent => exact stops_nil _ writer
  | dedent => exact stops_nil _ writer

/-- The writer with the room of its store set. -/
def granted (room : Option Nat) (writer : LineWriter) : LineWriter :=
  { writer with store := { writer.store with room } }

/-- What a store with room for so many bytes takes of a row of them. -/
theorem content_offered_granted (writer : LineWriter) (room : Nat) (bytes : ByteArray) :
    ((writer.granted (some room)).store.offered bytes).content =
      writer.store.content ++ bytes.extract 0 room := rfl

/-- What an operation does with limited room, beside the bytes that it writes with unlimited room
and the writer that it then reaches. -/
structure CutAt (operation : Operation) (writer : LineWriter) (room : Nat) (whole : ByteArray)
    (reached : LineWriter) : Prop where
  /-- With unlimited room the operation succeeds. -/
  unlimited : operation.perform (writer.granted none) = .ok () reached
  /-- It has then written all the bytes. -/
  content : reached.store.content = writer.store.content ++ whole
  /-- It leaves a level that does not depend on the room. -/
  level : reached.level = operation.levelAfter writer.level
  /-- With enough room it does the same. -/
  enough : whole.size ≤ room → ∃ done,
    operation.perform (writer.granted (some room)) = .ok () done ∧
    done.store.content = reached.store.content ∧ done.level = reached.level ∧
    done.atLineStart = reached.atLineStart
  /-- With less room it is refused, with the beginning written that fits and the level unchanged.
  The lines before the refused one have been written in full. A line starts afterwards exactly when
  the refused one was to be started and either has no text or did not bring its indent out. -/
  short : room < whole.size → ∃ stopped,
    operation.perform (writer.granted (some room)) =
      .error writer.store.refusal.writeFault stopped ∧
    stopped.store.content = writer.store.content ++ whole.extract 0 room ∧
    stopped.level = writer.level ∧
    ∃ before refused after, operation.calls writer.level = before ++ refused :: after ∧
      (writer.callText before).utf8ByteSize ≤ room ∧
      room < (writer.callText (before ++ [refused])).utf8ByteSize ∧
      (stopped.atLineStart = true ↔
        (before ≠ [] ∨ writer.atLineStart = true) ∧
        (refused.text = "" ∨ room < (writer.callText before).utf8ByteSize
          + (indentText writer.unit refused.level).utf8ByteSize))

/-- Every operation is cut where the room ends. -/
theorem exists_cutAt (operation : Operation) (writer : LineWriter) (room : Nat) :
    ∃ whole reached, CutAt operation writer room whole reached := by
  let whole := (writer.callText (operation.calls writer.level)).toByteArray
  have offers (limit : Option Nat) := offers_perform operation (writer.granted limit)
  obtain ⟨reached, ran, content, level, start⟩ := (offers none).of_room_eq_none rfl
  refine ⟨whole, reached, ran, content, level, fun enough => ?_, fun short => ?_⟩
  · have fits : (writer.granted (some room)).store.Fits whole := fun limit given => by
      cases given
      exact enough
    refine ⟨_, (offers (some room)).delivered fits, ?_, level.symm, start.symm⟩
    exact (Store.content_offered_of_fits fits).trans content.symm
  · have less : room < (writer.callText (operation.calls writer.level)).utf8ByteSize := by
      rwa [← String.size_toByteArray]
    obtain ⟨before, refused, after, calls, fitting, exceeding, stopped⟩ :=
      stops_perform operation (writer.granted (some room)) room rfl less
    refine ⟨_, stopped, content_offered_granted writer room whole, rfl, before, refused, after,
      calls, fitting, exceeding, ?_⟩
    have left : room - (writer.callText before).utf8ByteSize <
          (indentText writer.unit refused.level).utf8ByteSize ↔
        room < (writer.callText before).utf8ByteSize
          + (indentText writer.unit refused.level).utf8ByteSize := by
      change (writer.callText before).utf8ByteSize ≤ room at fitting
      omega
    change SinkCall.startsAfterRefusal writer.unit (!before.isEmpty || writer.atLineStart)
      (room - (writer.callText before).utf8ByteSize) refused = true ↔ _
    rw [SinkCall.startsAfterRefusal, Bool.and_eq_true, Bool.or_eq_true, Bool.or_eq_true,
      Bool.not_eq_true', beq_iff_eq, decide_eq_true_iff, left, ne_eq, List.isEmpty_eq_false_iff]

end LineWriter

end MessageContracts
