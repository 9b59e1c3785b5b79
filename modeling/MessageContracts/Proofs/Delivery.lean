import MessageContracts.Proofs.LineText
import MessageContracts.Proofs.Operation
import MessageContracts.Proofs.StoreRoom

/-!
# A writer offers its store the text of its calls

An action on a writer offers its store one text, in as many writes as it likes. When all of the
text fits, the action succeeds; when it does not, the store has taken the beginning that fits and
the action stops with the fault of the write. Actions one after the other offer the texts one after
the other, so a whole run is known from its calls.
-/

namespace MessageContracts.LineWriter

/-- An action offers a text, and leaves the writer at a level and at the start of a line or not. -/
structure Offers (action : EStateM OutputFault LineWriter Unit) (writer : LineWriter)
    (text : String) (level : Level) (atLineStart : Bool) : Prop where
  /-- A text that fits is taken, and the action succeeds. -/
  delivered : writer.store.Fits text.toByteArray → action writer = .ok ()
    { writer with level, atLineStart, store := writer.store.offered text.toByteArray }
  /-- Of a text that does not fit the store has taken what fits when the action stops. -/
  refused : ¬writer.store.Fits text.toByteArray →
    ∃ stopped, action writer = .error writer.store.refusal.writeFault stopped ∧
      stopped.store = writer.store.offered text.toByteArray

variable {action next : EStateM OutputFault LineWriter Unit} {writer : LineWriter}
variable {text later : String} {level nextLevel : Level} {start nextStart : Bool}

/-- An action that only moves the writer offers nothing. -/
theorem offers_of_ok (moved : action writer = .ok () { writer with level, atLineStart := start }) :
    Offers action writer "" level start where
  delivered _ := by rw [moved, String.toByteArray_empty, Store.offered_empty]
  refused unfit := absurd Store.fits_empty unfit

/-- Two actions one after the other offer both texts, the second from where the first leaves. -/
theorem Offers.bind (first : Offers action writer text level start)
    (second : ∀ store, Offers next { writer with level, atLineStart := start, store }
      later nextLevel nextStart) :
    Offers (do action; next) writer (text ++ later) nextLevel nextStart := by
  have sequence := andThen_apply action next writer
  have rest := second (writer.store.offered text.toByteArray)
  constructor
  · intro fits
    rw [String.toByteArray_append] at fits ⊢
    obtain ⟨head, tail⟩ := Store.fits_append.mp fits
    rw [sequence, first.delivered head, Store.offered_append]
    exact rest.delivered tail
  · intro unfit
    rw [String.toByteArray_append] at unfit ⊢
    by_cases head : writer.store.Fits text.toByteArray
    · have tail : ¬(writer.store.offered text.toByteArray).Fits later.toByteArray :=
        fun fits => unfit (Store.fits_append.mpr ⟨head, fits⟩)
      rw [sequence, first.delivered head, Store.offered_append]
      exact rest.refused tail
    · obtain ⟨stopped, failed, store⟩ := first.refused head
      refine ⟨stopped, ?_, ?_⟩
      · rw [sequence, failed]
      · rw [store, Store.offered_append, Store.offered_of_not_fits head]

/-- With unlimited room an action succeeds, and its text ends the content of the store. -/
theorem Offers.of_room_eq_none (offers : Offers action writer text level start)
    (unlimited : writer.store.room = none) :
    ∃ reached, action writer = .ok () reached ∧
      reached.store.content = writer.store.content ++ text.toByteArray ∧
      reached.level = level ∧ reached.atLineStart = start := by
  have fits : writer.store.Fits text.toByteArray := Store.fits_of_room_eq_none unlimited
  exact ⟨_, offers.delivered fits, Store.content_offered_of_fits fits, rfl, rfl⟩

/-- An action that first looks at the writer offers what it then offers. -/
theorem Offers.get {body : LineWriter → EStateM OutputFault LineWriter Unit}
    (offers : Offers (body writer) writer text level start) :
    Offers (do body (← MonadState.get)) writer text level start :=
  ⟨offers.delivered, offers.refused⟩

/-- A last action that only moves the writer adds nothing to what was offered. -/
theorem Offers.andModify (offers : Offers action writer text level start)
    {move : LineWriter → LineWriter}
    (moved : ∀ store, move { writer with level, atLineStart := start, store } =
      { writer with level := nextLevel, atLineStart := nextStart, store }) :
    Offers (do action; modify move) writer text nextLevel nextStart := by
  have both : Offers (do action; modify move) writer (text ++ "") nextLevel nextStart :=
    offers.bind fun store => offers_of_ok (by
      change EStateM.Result.ok () (move _) = _
      rw [moved])
  rwa [String.append_empty] at both

/-- A text goes to the store as it is. -/
theorem offers_emit (text : String) (writer : LineWriter) :
    Offers (emit text) writer text writer.level writer.atLineStart := by
  constructor
  · intro fits
    rw [emit, Store.appendText, String.toUTF8_eq_toByteArray, Store.append_of_fits fits]
  · intro unfit
    rw [emit, Store.appendText, String.toUTF8_eq_toByteArray, Store.append_of_not_fits unfit]
    exact ⟨_, rfl, rfl⟩

/-- The units of an indent go to the store one by one. -/
theorem offers_emitUnits (count : Nat) (writer : LineWriter) :
    Offers (emitUnits count) writer (indentText writer.unit count) writer.level
      writer.atLineStart := by
  induction count generalizing writer with
  | zero => exact offers_of_ok rfl
  | succ count ih =>
    rw [indentText_succ]
    apply Offers.get
    exact (offers_emit writer.unit writer).bind fun store => ih { writer with store }

/-- Text that starts a line is preceded by the indent. -/
theorem offers_startLine (writer : LineWriter) :
    Offers startLine writer (if writer.atLineStart then indentText writer.unit writer.level else "")
      writer.level false := by
  apply Offers.get
  by_cases starts : writer.atLineStart = true
  · simp only [if_pos starts]
    exact (offers_emitUnits writer.level writer).andModify fun store => rfl
  · have goesOn : writer.atLineStart = false := Bool.eq_false_iff.mpr starts
    simp only [if_neg starts]
    apply offers_of_ok
    rw [← goesOn]
    rfl

/-- A put offers the text, with the indent in front where it starts a line. -/
theorem offers_put (text : String) (writer : LineWriter) :
    Offers (put text) writer (fragmentText writer.unit writer.atLineStart writer.level text)
      writer.level (writer.atLineStart && text == "") := by
  by_cases blank : text = ""
  · subst blank
    rw [fragmentText_empty, beq_self_eq_true, Bool.and_true]
    exact offers_of_ok rfl
  · have filled : (text == "") = false := beq_eq_false_iff_ne.mpr blank
    rw [put, if_neg blank, fragmentText, if_neg blank, filled, Bool.and_false]
    exact (offers_startLine writer).bind fun store =>
      offers_emit text { writer with atLineStart := false, store }

/-- A put of a whole line offers the newline as well. -/
theorem offers_putLine (text : String) (writer : LineWriter) :
    Offers (putLine text) writer
      (fragmentText writer.unit writer.atLineStart writer.level text ++ writer.newline)
      writer.level true := by
  refine (offers_put text writer).bind fun store => ?_
  apply Offers.get
  exact (offers_emit writer.newline { writer with
    atLineStart := writer.atLineStart && text == "", store }).andModify fun store => rfl

/-- Lines of which the last stays open offer the text of their calls. -/
theorem offers_putOpen (lines : List String) (writer : LineWriter) :
    Offers (LineSink.putOpen lines) writer
      (SinkCall.writtenAll writer.unit writer.newline writer.atLineStart
        (Operation.openCalls writer.level lines))
      writer.level
      (SinkCall.startsAfter writer.atLineStart (Operation.openCalls writer.level lines)) := by
  induction lines generalizing writer with
  | nil => exact offers_of_ok rfl
  | cons line rest ih =>
    cases rest with
    | nil =>
      rw [Operation.openCalls, SinkCall.writtenAll, SinkCall.writtenAll, SinkCall.written_open,
        String.append_empty]
      exact offers_put line writer
    | cons second rest =>
      rw [Operation.openCalls_cons_cons, SinkCall.writtenAll, SinkCall.written_closed]
      exact (offers_putLine line writer).bind fun store =>
        ih { writer with atLineStart := true, store }

/-- Lines that all end offer the text of their calls. -/
theorem offers_putClosed (lines : List String) (writer : LineWriter) :
    Offers (LineSink.putClosed lines) writer
      (SinkCall.writtenAll writer.unit writer.newline writer.atLineStart
        (Operation.closedCalls writer.level lines))
      writer.level
      (SinkCall.startsAfter writer.atLineStart (Operation.closedCalls writer.level lines)) := by
  induction lines generalizing writer with
  | nil => exact offers_of_ok rfl
  | cons line rest ih =>
    rw [Operation.closedCalls, List.map_cons, SinkCall.writtenAll, SinkCall.written_closed]
    exact (offers_putLine line writer).bind fun store =>
      ih { writer with atLineStart := true, store }

/-- An operation offers the text of its calls and leaves the writer at its level. -/
theorem offers_perform (operation : Operation) (writer : LineWriter) :
    Offers operation.perform writer
      (SinkCall.writtenAll writer.unit writer.newline writer.atLineStart
        (operation.calls writer.level))
      (operation.levelAfter writer.level)
      (SinkCall.startsAfter writer.atLineStart (operation.calls writer.level)) := by
  cases operation with
  | put content =>
    rw [Operation.calls, SinkCall.writtenAll, SinkCall.writtenAll, SinkCall.written_open,
      String.append_empty]
    exact offers_put content writer
  | putLine content =>
    rw [Operation.calls, SinkCall.writtenAll, SinkCall.writtenAll, SinkCall.written_closed,
      String.append_empty]
    exact offers_putLine content writer
  | endLine =>
    rw [Operation.calls, SinkCall.writtenAll, SinkCall.writtenAll, SinkCall.written_closed,
      String.append_empty]
    exact offers_putLine "" writer
  | text content => exact offers_putOpen (Text.lines content) writer
  | lines content => exact offers_putClosed (Text.lines content) writer
  | fill template arguments => exact offers_putOpen (Text.lines (template.render arguments)) writer
  | fillLines template arguments =>
    exact offers_putClosed (Text.lines (template.render arguments)) writer
  | setLevel level => exact offers_of_ok rfl
  | indent => exact offers_of_ok rfl
  | dedent => exact offers_of_ok rfl

/-- Operations one after the other offer the text of all their calls. -/
theorem offers_performAll (operations : List Operation) (writer : LineWriter) :
    Offers (Operation.performAll operations) writer
      (SinkCall.writtenAll writer.unit writer.newline writer.atLineStart
        (Operation.trace writer.level operations))
      (Operation.endLevel writer.level operations)
      (SinkCall.startsAfter writer.atLineStart (Operation.trace writer.level operations)) := by
  induction operations generalizing writer with
  | nil => exact offers_of_ok rfl
  | cons operation rest ih =>
    rw [Operation.trace, SinkCall.writtenAll_append, SinkCall.startsAfter_append]
    exact (offers_perform operation writer).bind fun store => ih { writer with
      level := operation.levelAfter writer.level
      atLineStart := SinkCall.startsAfter writer.atLineStart (operation.calls writer.level)
      store }

end MessageContracts.LineWriter
