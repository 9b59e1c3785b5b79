import Mathlib.Data.List.Basic
import MessageContracts.Manifest.Render
import MessageContracts.Proofs.LineBreaks
import MessageContracts.Proofs.OutlineRows
import MessageContracts.Proofs.SourceLayout

/-!
# The layout of a manifest is cosmetic

A delivery writes its outline row by row, and an accepted indent holds no line feed. The rows are
therefore what lies between the line feeds of the output, with either line ending: the line ending
changes nothing but the ends of the rows, the indent nothing but their beginnings.
-/

namespace MessageContracts

open Text

namespace Text

/-- After the carriage returns are put in, every line feed follows one. -/
theorem getLast?_of_insertReturns_eq {text before after : List Char}
    (same : insertReturns text = before ++ '\n' :: after) : before.getLast? = some '\r' := by
  induction text generalizing before with
  | nil => exact absurd same.symm (List.append_ne_nil_of_right_ne_nil _ (List.cons_ne_nil _ _))
  | cons c rest ih =>
    by_cases feed : c = '\n'
    · subst feed
      rw [insertReturns_feed] at same
      match before with
      | [] => exact absurd (List.cons.inj same).1 (by decide)
      | [first] =>
        have returned : first = '\r' := (List.cons.inj same).1.symm
        rw [returned, List.getLast?_singleton]
      | first :: second :: more =>
        have later := ih (List.cons.inj (List.cons.inj same).2).2
        rw [List.getLast?_cons, List.getLast?_cons, later]
        rfl
    · rw [insertReturns_cons feed] at same
      match before with
      | [] => exact absurd (List.cons.inj same).1 feed
      | first :: more =>
        have later := ih (List.cons.inj same).2
        rw [List.getLast?_cons, later]
        rfl

/-- Rows that end in line feeds and hold no others are what lies between the line feeds. -/
theorem splitOn_feed_flatMap {rows : List (List Char)} (feedless : ∀ row ∈ rows, '\n' ∉ row) :
    (rows.flatMap (· ++ ['\n'])).splitOn '\n' = rows ++ [[]] := by
  induction rows with
  | nil => exact List.splitOn_nil _
  | cons row rest ih =>
    obtain ⟨here, later⟩ := List.forall_mem_cons.mp feedless
    have alone : row.splitOn '\n' = [row] := by
      refine List.splitOnP_eq_singleton fun c inside => ?_
      exact beq_eq_false_iff_ne.mpr fun feed => here (feed ▸ inside)
    have cut : (row ++ '\n' :: rest.flatMap (· ++ ['\n'])).splitOn '\n' =
        row.splitOn '\n' ++ (rest.flatMap (· ++ ['\n'])).splitOn '\n' :=
      List.splitOnP_append_cons _ _ (beq_self_eq_true '\n')
    rw [List.flatMap_cons, List.append_assoc, List.singleton_append, cut, alone, ih later]
    rfl

end Text

namespace OutputLayout

/-- Whether a character may stand in an indent. -/
def isIndenting (c : Char) : Bool := c == ' ' || c == '\t'

/-- What lies between the line feeds of a text, without the spaces and tabs in front. -/
def unindented (text : String) : List (List Char) :=
  (text.toList.splitOn '\n').map (·.dropWhile isIndenting)

variable {indent : String} {ending : LineEnding}

/-- The indent of an accepted manifest consists of spaces and tabs. -/
theorem isIndenting_of_accepted {settings : Settings}
    (accepted : (Manifest.mk settings ⟨indent, ending⟩).fault? = none) :
    ∀ c ∈ indent.toList, isIndenting c = true := by
  have fine : (OutputLayout.mk indent ending).fault? = none :=
    (Option.or_eq_none_iff.mp (Option.orElse_eq_or.symm.trans accepted)).1
  rw [OutputLayout.fault?] at fine
  split at fine
  · rename_i blank
    exact List.all_eq_true.mp blank
  · cases fine

/-- Spaces and tabs are no line feeds. -/
theorem feedless_of_isIndenting (blank : ∀ c ∈ indent.toList, isIndenting c = true) :
    '\n' ∉ indent.toList := by
  intro feed
  have blank_feed : isIndenting '\n' = true := blank _ feed
  exact absurd blank_feed (by decide)

/-- The indent of a level consists of what the indent of one level consists of. -/
theorem isIndenting_indentText (blank : ∀ c ∈ indent.toList, isIndenting c = true) (level : Nat) :
    ∀ c ∈ (indentText indent level).toList, isIndenting c = true := by
  rw [indentText, String.toList_join]
  intro c inside
  obtain ⟨copy, copied, inside⟩ := List.mem_flatMap.mp inside
  rw [List.eq_of_mem_replicate copied] at inside
  exact blank c inside

/-- Without the spaces and tabs in front, a row is its line, whatever ends it. -/
theorem dropWhile_row (blank : ∀ c ∈ indent.toList, isIndenting c = true) (line : PlacedLine)
    (ended : List Char) :
    ((line.row indent).toList ++ ended).dropWhile isIndenting =
      (line.text.toList ++ ended).dropWhile isIndenting := by
  rw [PlacedLine.row, String.toList_append, List.append_assoc]
  by_cases empty : line.text = ""
  · rw [if_pos empty]
    rfl
  · rw [if_neg empty]
    exact List.dropWhile_append_of_pos (isIndenting_indentText blank line.level)

end OutputLayout

namespace LineEnding

/-- What a line ending puts between a row and its line feed. -/
def beforeFeed : LineEnding → List Char
  | .lf => []
  | .crlf => ['\r']

/-- A line ending is what it puts before its line feed, and the line feed. -/
theorem toList_text (ending : LineEnding) : ending.text.toList = ending.beforeFeed ++ ['\n'] := by
  cases ending <;> rfl

/-- No line ending has a second line feed. -/
theorem feedless_beforeFeed (ending : LineEnding) : '\n' ∉ ending.beforeFeed := by
  cases ending <;> simp [beforeFeed]

end LineEnding

namespace Outline

open OutputLayout

variable {indent : String} {lines : List PlacedLine}

/-- What lies between the line feeds of lines laid out are their rows, and nothing behind them. -/
theorem splitOn_text (plain : '\n' ∉ indent.toList) (inside : Feedless lines)
    (ending : LineEnding) :
    (text indent ending.text lines).toList.splitOn '\n' =
      lines.map (fun line => (line.row indent).toList ++ ending.beforeFeed) ++ [[]] := by
  have rows : (text indent ending.text lines).toList =
      (lines.map fun line => (line.row indent).toList ++ ending.beforeFeed).flatMap
        (· ++ ['\n']) := by
    rw [text, String.toList_join, List.flatMap_map, List.flatMap_map]
    refine List.flatMap_congr fun line _ => ?_
    rw [line.written_eq_row, String.toList_append, ending.toList_text, ← List.append_assoc]
  rw [rows]
  apply splitOn_feed_flatMap
  refine List.forall_mem_map.mpr fun line listed => ?_
  have row : '\n' ∉ (line.row indent).toList :=
    feedless_row plain inside _ (List.mem_map_of_mem listed)
  rw [List.mem_append]
  exact not_or_intro row ending.feedless_beforeFeed

/-- Without the spaces and tabs in front of its lines, a text laid out has lost its indents. -/
theorem unindented_text (blank : ∀ c ∈ indent.toList, isIndenting c = true)
    (inside : Feedless lines) (ending : LineEnding) :
    unindented (text indent ending.text lines) =
      lines.map (fun line => (line.text.toList ++ ending.beforeFeed).dropWhile isIndenting)
        ++ [[]] := by
  rw [unindented, splitOn_text (feedless_of_isIndenting blank) inside, List.map_append,
    List.map_map]
  have bare : lines.map ((·.dropWhile isIndenting) ∘ fun line : PlacedLine =>
      (line.row indent).toList ++ ending.beforeFeed) = lines.map fun line : PlacedLine =>
        (line.text.toList ++ ending.beforeFeed).dropWhile isIndenting :=
    List.map_congr_left fun line _ => dropWhile_row blank line ending.beforeFeed
  rw [bare]
  rfl

/-- With carriage returns in its newlines, a text laid out is the one without them with a carriage
return in front of every line feed. -/
theorem text_crlf (plain : '\n' ∉ indent.toList) (inside : Feedless lines) :
    text indent LineEnding.crlf.text lines =
      withReturns (text indent LineEnding.lf.text lines) := by
  have returned : withReturns LineEnding.lf.text = LineEnding.crlf.text := by decide
  rw [text, text, withReturns_join, List.map_map]
  refine congrArg String.join (List.map_congr_left fun line listed => ?_)
  have row : '\n' ∉ (line.row indent).toList :=
    feedless_row plain inside _ (List.mem_map_of_mem listed)
  rw [Function.comp_apply, line.written_eq_row, line.written_eq_row, withReturns_append,
    withReturns_of_not_mem row, returned]

end Outline

namespace Manifest

variable (manifest : Manifest) (model : Model) (store : Store)

/-- The source that a manifest asks for. -/
def source (manifest : Manifest) (model : Model) : String :=
  Outline.text manifest.layout.indent manifest.layout.lineEnding.text
    (manifest.generator.outline model 0)

/-- A pass that a manifest lays out offers the source that the manifest asks for. -/
theorem offeredText_writer :
    manifest.generator.offeredText model (manifest.writer store) = manifest.source model :=
  Generator.offeredText_onto (.inl (Generator.inRange_zero _ _)) _ _

/-- Flushing changes nothing of what the store holds, and is refused only without any room. -/
theorem flush_writer (writer : LineWriter) : ∃ flushed : LineWriter,
    flushed.store.content = writer.store.content ∧
      (writer.flushedBy Store.answerByRoom = .ok () flushed ∨ writer.store.room = some 0 ∧
        writer.flushedBy Store.answerByRoom = .error writer.store.refusal.fault flushed) := by
  refine ⟨{ writer with store := { writer.store with flushes := writer.store.flushes + 1 } },
    rfl, ?_⟩
  simp only [LineWriter.flushedBy, Store.flushedBy, EStateM.run, Store.answerByRoom]
  by_cases full : writer.store.room = some 0
  · rw [if_pos full]
    exact .inr ⟨full, rfl⟩
  · rw [if_neg full]
    exact .inl rfl

/-- After a pass that failed, a delivery fails. -/
theorem result_render_of_error {error : GenerationError}
    (failed : (manifest.generator.generate model (manifest.writer store)).result = .error error) :
    (manifest.render model store).result = .error (.write error) := by
  simp only [render, renderFlushedBy, failed]

/-- After a pass that succeeded, a delivery holds what the pass wrote, and fails only where the
pass left no room. -/
theorem render_of_ok {summary : Summary}
    (done : (manifest.generator.generate model (manifest.writer store)).result = .ok summary) :
    let written := (manifest.generator.generate model (manifest.writer store)).sink.store
    (manifest.render model store).store.content = written.content ∧
      ((manifest.render model store).result = .ok summary ∨ written.room = some 0 ∧
        (manifest.render model store).result = .error (.flush written.refusal.fault)) := by
  intro written
  obtain ⟨flushed, kept, flush⟩ :=
    flush_writer (manifest.generator.generate model (manifest.writer store)).sink
  rcases flush with accepted | ⟨full, refused⟩
  · simp only [render, renderFlushedBy, done, accepted]
    exact ⟨kept, .inl trivial⟩
  · simp only [render, renderFlushedBy, done, refused]
    exact ⟨kept, .inr ⟨full, rfl⟩⟩

/-- A delivery of a source for which there is room writes all of it, and fails only where no room
is left. -/
theorem render_of_fits (fits : store.Fits (manifest.source model).toUTF8) :
    let offered := store.offered (manifest.source model).toUTF8
    (manifest.render model store).store.content =
        store.content ++ (manifest.source model).toUTF8 ∧
      ((manifest.render model store).result = .ok (manifest.generator.summary model) ∨
        offered.room = some 0 ∧
          (manifest.render model store).result = .error (.flush offered.refusal.fault)) := by
  have offered := offeredText_writer manifest model store
  have room : (manifest.writer store).store.Fits
      (manifest.generator.offeredText model (manifest.writer store)).toByteArray := by
    rw [offered]
    exact fits
  obtain ⟨done, reached⟩ := Generator.generate_of_fits manifest.generator model room
  obtain ⟨kept, outcome⟩ := render_of_ok manifest model store done
  rw [reached, offered] at kept outcome
  exact ⟨kept.trans (Store.content_offered_of_fits fits), outcome⟩

/-- A delivery that succeeds leaves the source behind what the store held before, and with
unlimited room it does succeed. -/
theorem render_writes_source :
    (store.room = none →
        (manifest.render model store).result = .ok (manifest.generator.summary model)) ∧
      ∀ summary, (manifest.render model store).result = .ok summary →
        summary = manifest.generator.summary model ∧
          (manifest.render model store).store.content =
            store.content ++ (manifest.source model).toUTF8 := by
  by_cases fits : store.Fits (manifest.source model).toUTF8
  · obtain ⟨content, outcome⟩ := render_of_fits manifest model store fits
    rcases outcome with succeeded | ⟨full, refused⟩
    · refine ⟨fun _ => succeeded, fun summary given => ⟨?_, content⟩⟩
      exact (Except.ok.inj (succeeded.symm.trans given)).symm
    · constructor
      · intro unlimited
        have room : (store.offered (manifest.source model).toUTF8).room = none := by
          rw [Store.offered, unlimited, Option.map_none]
        cases room.symm.trans full
      · intro summary given
        cases refused.symm.trans given
  · have no_room : ¬(manifest.writer store).store.Fits
        (manifest.generator.offeredText model (manifest.writer store)).toByteArray := by
      rw [offeredText_writer manifest model store]
      exact fits
    obtain ⟨failed, -⟩ := Generator.generate_of_not_fits manifest.generator model no_room
    have refused := result_render_of_error manifest model store failed
    constructor
    · intro unlimited
      exact absurd (Store.fits_of_room_eq_none unlimited) fits
    · intro summary given
      cases refused.symm.trans given

/-- With unlimited room, a delivery succeeds and writes the source and nothing else. -/
theorem render_unlimited :
    (manifest.render model .unlimited).result = .ok (manifest.generator.summary model) ∧
      (manifest.render model .unlimited).store.content = (manifest.source model).toUTF8 := by
  obtain ⟨succeeds, writes⟩ := render_writes_source manifest model .unlimited
  have done := succeeds rfl
  exact ⟨done, (writes _ done).2.trans ByteArray.empty_append⟩

/-- The layout of a manifest is cosmetic. Over every store that takes the output, manifests that
differ in their layouts give one summary, and what is written depends on the layout alone. With the
longer line ending it is what is written with the shorter one, a carriage return in front of every
line feed, so that no line feed lacks its carriage return. With two accepted indents it is the same
between the line feeds, piece by piece, up to the spaces and tabs in front. -/
theorem render_layout_is_cosmetic (settings : Settings) (model : Model) :
    ∃ (text : OutputLayout → String) (summary : Summary),
      (∀ (layout : OutputLayout) (store : Store),
        (store.room = none → ((Manifest.mk settings layout).render model store).result =
          .ok summary) ∧
        ∀ given, ((Manifest.mk settings layout).render model store).result = .ok given →
          given = summary ∧ ((Manifest.mk settings layout).render model store).store.content =
            store.content ++ (text layout).toUTF8) ∧
      (∀ indent, (Manifest.mk settings ⟨indent, .lf⟩).fault? = none →
        text ⟨indent, .crlf⟩ = withReturns (text ⟨indent, .lf⟩) ∧
        ∀ before after, (text ⟨indent, .crlf⟩).toList = before ++ '\n' :: after →
          before.getLast? = some '\r') ∧
      ∀ (ending : LineEnding) (indent other : String),
        (Manifest.mk settings ⟨indent, ending⟩).fault? = none →
        (Manifest.mk settings ⟨other, ending⟩).fault? = none →
        OutputLayout.unindented (text ⟨indent, ending⟩) =
          OutputLayout.unindented (text ⟨other, ending⟩) := by
  have feedless := Outline.feedless_outline (Generator.ofSettings settings) model 0
  refine ⟨fun layout => (Manifest.mk settings layout).source model,
    (Generator.ofSettings settings).summary model,
    fun layout store => render_writes_source ⟨settings, layout⟩ model store, ?_, ?_⟩
  · intro indent accepted
    have plain : '\n' ∉ indent.toList :=
      OutputLayout.feedless_of_isIndenting (OutputLayout.isIndenting_of_accepted accepted)
    have returned : (Manifest.mk settings ⟨indent, .crlf⟩).source model =
        withReturns ((Manifest.mk settings ⟨indent, .lf⟩).source model) :=
      Outline.text_crlf plain feedless
    refine ⟨returned, fun before after split => ?_⟩
    have chars := congrArg String.toList returned
    rw [toList_withReturns] at chars
    exact getLast?_of_insertReturns_eq (chars.symm.trans split)
  · intro ending indent other accepted otherAccepted
    have bare := Outline.unindented_text (OutputLayout.isIndenting_of_accepted accepted)
      feedless ending
    have otherBare := Outline.unindented_text
      (OutputLayout.isIndenting_of_accepted otherAccepted) feedless ending
    exact bare.trans otherBare.symm

/-- Tabs and pairs of spaces are accepted, and a model comes out alike with either of them. -/
theorem render_layout_is_cosmetic_tabs :
    (Manifest.mk .stock ⟨"\t", .lf⟩).fault? = none ∧
      (Manifest.mk .stock ⟨"  ", .lf⟩).fault? = none ∧
      ∃ text : OutputLayout → String,
        ((Manifest.mk .stock ⟨"\t", .lf⟩).render Generator.depositModel
          .unlimited).store.content = (text ⟨"\t", .lf⟩).toUTF8 ∧
        text ⟨"\t", .crlf⟩ = withReturns (text ⟨"\t", .lf⟩) ∧
        OutputLayout.unindented (text ⟨"\t", .lf⟩) =
          OutputLayout.unindented (text ⟨"  ", .lf⟩) := by
  have tabs : (Manifest.mk .stock ⟨"\t", .lf⟩).fault? = none := by decide
  have spaces : (Manifest.mk .stock ⟨"  ", .lf⟩).fault? = none := by decide
  obtain ⟨text, summary, writes, returned, alike⟩ :=
    render_layout_is_cosmetic .stock Generator.depositModel
  obtain ⟨succeeds, written⟩ := writes ⟨"\t", .lf⟩ .unlimited
  obtain ⟨-, content⟩ := written summary (succeeds rfl)
  refine ⟨tabs, spaces, text, ?_, (returned "\t" tabs).1, alike .lf "\t" "  " tabs spaces⟩
  exact content.trans ByteArray.empty_append

end Manifest

end MessageContracts
