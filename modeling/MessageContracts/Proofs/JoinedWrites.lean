import MessageContracts.Proofs.LaidSteps

/-!
# Texts written in parts

A text can be written in one go or in parts. A store takes a row of bytes alike in one piece and in
two, a writer that has begun a line goes on with it without an indent, and the lines of two texts
are the lines of the first with the second one going on behind the last, as long as the cut leaves
no carriage return behind that belongs to a line break further on. The laws are equalities of
actions, so they hold of refused writes as well.
-/

namespace MessageContracts

namespace Text

open Outline

/-- The pieces of two rows of characters. The last piece of the first row goes on with the first
piece of the second, and it is the end of the first row. -/
theorem exists_splitLines_append (first second : List Char) :
    ∃ ended last next rest, splitLines first = ended ++ [last] ∧ splitLines second = next :: rest ∧
      splitLines (first ++ second) = ended ++ (last ++ next) :: rest ∧
      ∃ front, first = front ++ last ∧ (ended = [] → front = []) := by
  induction first with
  | nil =>
    obtain ⟨next, rest, pieces⟩ := List.exists_cons_of_ne_nil (splitLines_ne_nil second)
    exact ⟨[], [], next, rest, rfl, pieces, pieces, [], rfl, fun _ => rfl⟩
  | cons c first ih =>
    obtain ⟨ended, last, next, rest, head, tail, both, front, whole, only⟩ := ih
    rw [List.cons_append]
    by_cases feed : c = '\n'
    · refine ⟨[] :: ended, last, next, rest, ?_, tail, ?_, c :: front, ?_,
        fun none => absurd none (List.cons_ne_nil [] ended)⟩
      · rw [splitLines, if_pos feed, head, List.cons_append]
      · rw [splitLines, if_pos feed, both, List.cons_append]
      · rw [whole, List.cons_append]
    · cases ended with
      | nil =>
        cases only rfl
        refine ⟨[], c :: last, next, rest, ?_, tail, ?_, [], ?_, fun _ => rfl⟩
        · simp only [splitLines, if_neg feed, head, List.nil_append]
        · simp only [splitLines, if_neg feed, both, List.nil_append, List.cons_append]
        · rw [whole, List.nil_append, List.nil_append]
      | cons line ended =>
        refine ⟨(c :: line) :: ended, last, next, rest, ?_, tail, ?_, c :: front, ?_,
          fun none => absurd none (List.cons_ne_nil (c :: line) ended)⟩
        · simp only [splitLines, if_neg feed, head, List.cons_append]
        · simp only [splitLines, if_neg feed, both, List.cons_append]
        · rw [whole, List.cons_append]

/-- A piece keeps its last character when that is no carriage return. -/
theorem dropReturn_of_getLast? {line : List Char} (other : line.getLast? ≠ some '\r') :
    dropReturn line = line := if_neg other

/-- A piece that goes on loses its carriage return where the end of it does, unless the cut leaves
one behind. -/
theorem dropReturn_append {line next : List Char}
    (clean : line.getLast? ≠ some '\r' ∨ next = []) :
    dropReturn (line ++ next) = dropReturn line ++ dropReturn next := by
  cases next with
  | nil =>
    have nothing : dropReturn [] = [] := rfl
    rw [nothing, List.append_nil, List.append_nil]
  | cons c next =>
    have other : line.getLast? ≠ some '\r' := clean.resolve_right (List.cons_ne_nil c next)
    have last : (line ++ c :: next).getLast? = (c :: next).getLast? := by
      rw [List.getLast?_append, List.getLast?_cons, Option.some_or]
    rw [dropReturn_of_getLast? other, dropReturn, dropReturn, last]
    by_cases ending : (c :: next).getLast? = some '\r'
    · rw [if_pos ending, if_pos ending, List.dropLast_append_of_ne_nil (List.cons_ne_nil c next)]
    · rw [if_neg ending, if_neg ending]

/-- The cut between two texts is clean when the first does not end in a carriage return, or when
nothing or a line feed comes next. -/
def CutsCleanly (first second : String) : Prop :=
  first.toList.getLast? ≠ some '\r' ∨ second = "" ∨ second.toList.head? = some '\n'

instance (first second : String) : Decidable (CutsCleanly first second) :=
  inferInstanceAs (Decidable (_ ∨ _ ∨ _))

/-- The lines of two texts are those of the first, of which the last goes on with the second. -/
theorem lines_append {first second : String} (clean : CutsCleanly first second) :
    lines (first ++ second) = continued (lines first) (lines second) := by
  obtain ⟨ended, last, next, rest, head, tail, both, front, whole, -⟩ :=
    exists_splitLines_append first.toList second.toList
  have nothing_lost : last.getLast? ≠ some '\r' ∨ next = [] := by
    rcases clean with other | empty | feed
    · refine .inl fun ending => other ?_
      rw [whole, List.getLast?_append, ending, Option.some_or]
    · subst empty
      cases tail
      exact .inr rfl
    · obtain ⟨others, second_chars⟩ := List.head?_eq_some_iff.mp feed
      rw [second_chars] at tail
      cases tail
      exact .inr rfl
  rw [lines, lines, lines, String.toList_append, both, head, tail]
  simp only [List.map_append, List.map_cons, List.map_nil]
  rw [continued_append, continued, dropReturn_append nothing_lost, String.ofList_append]

end Text

namespace Store

/-- A row of bytes is taken in two pieces as it is in one. -/
theorem append_append (first second : ByteArray) :
    append (first ++ second) = (do append first; append second) := by
  funext store
  rw [andThen_apply]
  by_cases head : store.Fits first
  · rw [append_of_fits head]
    by_cases tail : (store.offered first).Fits second
    · have both := fits_append.mpr ⟨head, tail⟩
      rw [append_of_fits both, offered_append]
      exact (append_of_fits tail).symm
    · have unfit : ¬store.Fits (first ++ second) := fun both => tail (fits_append.mp both).2
      rw [append_of_not_fits unfit, offered_append]
      exact (append_of_not_fits tail).symm
  · have unfit : ¬store.Fits (first ++ second) := fun both => head (fits_append.mp both).1
    rw [append_of_not_fits head, append_of_not_fits unfit, offered_append, offered_of_not_fits head]

end Store

namespace LineWriter

open Outline

variable {writer later : LineWriter}

/-- A text is passed on in two pieces as it is in one. -/
theorem emit_append (first second : String) :
    emit (first ++ second) = (do emit first; emit second) := by
  funext writer
  have pieces := congrFun (Store.append_append first.toByteArray second.toByteArray) writer.store
  rw [andThen_apply] at pieces
  rw [andThen_apply]
  simp only [emit, Store.appendText, String.toUTF8_eq_toByteArray, String.toByteArray_append,
    pieces]
  cases Store.append first.toByteArray writer.store <;> rfl

/-- Passing a text on neither starts nor ends a line. -/
theorem atLineStart_of_emit {text : String} (done : emit text writer = .ok () later) :
    later.atLineStart = writer.atLineStart := by
  rw [emit] at done
  cases taken : Store.appendText text writer.store with
  | ok _ store =>
    rw [taken] at done
    cases done
    rfl
  | error fault store =>
    rw [taken] at done
    cases done

/-- A line that is to be started gets its indent, and then it has started. -/
theorem startLine_apply (writer : LineWriter) :
    startLine writer = (if writer.atLineStart then
      (do emitUnits writer.level; modify fun writer => { writer with atLineStart := false })
      else pure () : EStateM OutputFault LineWriter Unit) writer := rfl

/-- The start of a line is its indent, and then the line has started. -/
theorem startLine_of_atLineStart (starts : writer.atLineStart = true) :
    startLine writer =
      match emitUnits writer.level writer with
      | .ok _ reached => .ok () { reached with atLineStart := false }
      | .error fault stopped => .error fault stopped := by
  rw [startLine_apply, if_pos starts, andThen_apply]
  cases emitUnits writer.level writer <;> rfl

/-- A line that has started is not started again. -/
theorem startLine_of_started (started : writer.atLineStart = false) :
    startLine writer = .ok () writer := by
  have goes_on : ¬writer.atLineStart = true := Bool.eq_false_iff.mp started
  rw [startLine_apply, if_neg goes_on]
  rfl

/-- After its indent a line has started. -/
theorem atLineStart_of_startLine (done : startLine writer = .ok () later) :
    later.atLineStart = false := by
  by_cases starts : writer.atLineStart = true
  · rw [startLine_of_atLineStart starts] at done
    cases indent : emitUnits writer.level writer with
    | ok _ reached =>
      rw [indent] at done
      cases done
      rfl
    | error fault stopped =>
      rw [indent] at done
      cases done
  · have started : writer.atLineStart = false := Bool.eq_false_iff.mpr starts
    rw [startLine_of_started started] at done
    cases done
    exact started

/-- Behind a first text of its line, a text is passed on without an indent. -/
theorem startLine_emit_startLine (text : String) :
    (do startLine; emit text; startLine) = (do startLine; emit text) := by
  funext writer
  rw [andThen_apply, andThen_apply]
  cases start : startLine writer with
  | error fault stopped => rfl
  | ok _ started =>
    dsimp only
    rw [andThen_apply]
    cases sent : emit text started with
    | error fault stopped => rfl
    | ok _ reached =>
      dsimp only
      have open_line : reached.atLineStart = false :=
        (atLineStart_of_emit sent).trans (atLineStart_of_startLine start)
      rw [startLine_of_started open_line]

/-- A text that is not empty starts its line and is passed on. -/
theorem put_of_ne_empty {text : String} (filled : text ≠ "") :
    put text = (do startLine; emit text) := if_neg filled

/-- A piece of a line can be put in two pieces. -/
theorem put_append (first second : String) :
    put (first ++ second) = (do put first; put second) := by
  have nothing : put "" = pure () := if_pos rfl
  by_cases head : first = ""
  · rw [head, nothing, String.empty_append, pure_bind]
  by_cases tail : second = ""
  · rw [tail, nothing, String.append_empty, bind_pure_unit]
  have filled : first ++ second ≠ "" := fun both => head (String.append_eq_empty_iff.mp both).1
  rw [put_of_ne_empty filled, put_of_ne_empty head, put_of_ne_empty tail, emit_append]
  calc (do startLine; emit first; emit second)
      = (do (do startLine; emit first); emit second) := (bind_assoc ..).symm
    _ = (do (do startLine; emit first; startLine); emit second) := by
        rw [startLine_emit_startLine]
    _ = (do (do startLine; emit first); startLine; emit second) := by simp only [bind_assoc]

/-- The last piece of a line can be put in two pieces. -/
theorem putLine_append (first second : String) :
    putLine (first ++ second) = (do put first; putLine second) := by
  rw [putLine, put_append, putLine]
  simp only [bind_assoc]

/-- A line with others after it is put and ended. -/
theorem putOpen_cons (line : String) {rest : List String} (some_line : rest ≠ []) :
    (LineSink.putOpen (line :: rest) : EStateM OutputFault LineWriter Unit) =
      (do putLine line; LineSink.putOpen rest) := by
  obtain ⟨second, rest, rfl⟩ := List.exists_cons_of_ne_nil some_line
  rfl

/-- Only the last of some lines goes on. -/
theorem continued_cons_cons (line second : String) (rest others : List String) :
    continued (line :: second :: rest) others = line :: continued (second :: rest) others := rfl

/-- Lines that go on with others are some lines. -/
theorem continued_ne_nil (lines : List String) {others : List String} (some_line : others ≠ []) :
    continued lines others ≠ [] := by
  obtain ⟨next, others, rfl⟩ := List.exists_cons_of_ne_nil some_line
  rcases lines with _ | ⟨line, _ | ⟨second, rest⟩⟩ <;> exact List.cons_ne_nil _ _

/-- Lines that go on with others can be written first, with the last of them left open. -/
theorem putOpen_continued {lines others : List String} (some_line : lines ≠ [])
    (other_line : others ≠ []) :
    (LineSink.putOpen (continued lines others) : EStateM OutputFault LineWriter Unit) =
      (do LineSink.putOpen lines; LineSink.putOpen others) := by
  induction lines with
  | nil => exact absurd rfl some_line
  | cons line rest ih =>
    cases rest with
    | cons second rest =>
      have later := ih (List.cons_ne_nil second rest)
      rw [continued_cons_cons, putOpen_cons line (continued_ne_nil _ other_line), later,
        putOpen_cons line (List.cons_ne_nil second rest), bind_assoc]
    | nil =>
      obtain ⟨next, others, rfl⟩ := List.exists_cons_of_ne_nil other_line
      cases others with
      | nil => exact put_append line next
      | cons second others =>
        rw [continued, putOpen_cons _ (List.cons_ne_nil second others), putLine_append,
          putOpen_cons _ (List.cons_ne_nil second others), bind_assoc]
        rfl

/-- Lines that go on with others and all end can be written first, with the last of them left
open. -/
theorem putClosed_continued {lines others : List String} (some_line : lines ≠ [])
    (other_line : others ≠ []) :
    (LineSink.putClosed (continued lines others) : EStateM OutputFault LineWriter Unit) =
      (do LineSink.putOpen lines; LineSink.putClosed others) := by
  induction lines with
  | nil => exact absurd rfl some_line
  | cons line rest ih =>
    cases rest with
    | cons second rest =>
      have later := ih (List.cons_ne_nil second rest)
      rw [continued_cons_cons, putOpen_cons line (List.cons_ne_nil second rest), bind_assoc,
        ← later]
      rfl
    | nil =>
      obtain ⟨next, others, rfl⟩ := List.exists_cons_of_ne_nil other_line
      change (do putLine (line ++ next); LineSink.putClosed others) =
        (do put line; putLine next; LineSink.putClosed others)
      rw [putLine_append, bind_assoc]

/-- Lines that all end are the lines with the last of them left open, and then its end. -/
theorem putClosed_eq_putOpen {lines : List String} (some_line : lines ≠ []) :
    (LineSink.putClosed lines : EStateM OutputFault LineWriter Unit) =
      (do LineSink.putOpen lines; LineSink.endLine) := by
  have nothing_more : continued lines [""] = lines := by
    rw [← List.dropLast_concat_getLast some_line, continued_append, continued, String.append_empty]
  have last_end : (LineSink.putClosed [""] : EStateM OutputFault LineWriter Unit) =
      LineSink.endLine := bind_pure_unit
  have both := putClosed_continued some_line (List.cons_ne_nil "" [])
  rwa [nothing_more, last_end] at both

/-- A text can be written in parts. On every writer, in whatever state and over whatever store,
writing a text up to a clean cut and then the rest of it comes to the same as writing it in one go,
whether its last line is left open or ended; and a text whose last line is left open and then ended
is a text whose lines all end. With unlimited room all of it succeeds, at the same level. -/
theorem putText_in_parts (first second : String) (writer : LineWriter) :
    (Text.CutsCleanly first second →
      (do LineSink.putText first; LineSink.putText second : EStateM OutputFault LineWriter Unit)
          writer = LineSink.putText (first ++ second) writer ∧
      (do LineSink.putText first; LineSink.putLines second : EStateM OutputFault LineWriter Unit)
          writer = LineSink.putLines (first ++ second) writer) ∧
    (do LineSink.putText first; LineSink.endLine : EStateM OutputFault LineWriter Unit) writer =
      LineSink.putLines first writer ∧
    (writer.store.room = none → ∀ text : String,
      (∃ later, LineSink.putText text writer = .ok () later ∧ later.level = writer.level) ∧
      ∃ later, LineSink.putLines text writer = .ok () later ∧ later.level = writer.level) := by
  have some_line := Text.lines_ne_nil
  refine ⟨fun clean => ?_, ?_, fun unlimited text => ?_⟩
  · rw [LineSink.putText, LineSink.putText, LineSink.putLines, LineSink.putText, LineSink.putLines,
      Text.lines_append clean, putOpen_continued (some_line first) (some_line second),
      putClosed_continued (some_line first) (some_line second)]
    exact ⟨rfl, rfl⟩
  · rw [LineSink.putText, LineSink.putLines, putClosed_eq_putOpen (some_line first)]
  · obtain ⟨left, done, -, atLevel, -⟩ :=
      (offers_putOpen (Text.lines text) writer).of_room_eq_none unlimited
    obtain ⟨ended, finished, -, endLevel, -⟩ :=
      (offers_putClosed (Text.lines text) writer).of_room_eq_none unlimited
    exact ⟨⟨left, done, atLevel⟩, ended, finished, endLevel⟩

/-- A text can be cut inside a line break, in front of the line feed, on a line that has begun. -/
theorem putText_in_parts_insideBreak :
    let writer := LineWriter.mk "\t" "\r\n" 1 false .unlimited
    Text.CutsCleanly "a\r" "\nb" ∧ writer.store.room = none ∧
      (do LineSink.putText "a\r"; LineSink.putText "\nb" : EStateM OutputFault LineWriter Unit)
        writer = LineSink.putText "a\r\nb" writer ∧
      ∃ later, LineSink.putText "a\r\nb" writer = .ok () later ∧ later.level = 1 := by
  intro writer
  have clean : Text.CutsCleanly "a\r" "\nb" := by decide
  have unlimited : writer.store.room = none := rfl
  obtain ⟨parts, -, succeeds⟩ := putText_in_parts "a\r" "\nb" writer
  exact ⟨clean, unlimited, (parts clean).1, (succeeds unlimited "a\r\nb").1⟩

end LineWriter

end MessageContracts
