import MessageContracts.Proofs.Outline

/-!
# Steps that lay out lines

Steps lay out lines when, from the start of a line on, they write exactly these and end at the
start of a line and at the level where they began. A line that is put together from several steps
is followed as an open line until it ends. Steps that would raise the highest level lay out nothing,
but before they do so they start a line behind the whole indent of that level. The rules below take
the steps of a pass apart along the way they are made.
-/

namespace MessageContracts

open Text Outline

variable {steps first second body : List Step} {level : Level} {placed later : List PlacedLine}

/-- A line with text is started at the highest level, so that all the indent that a level can count
stands in front of it. -/
def Step.MeetsTop (level : Level) (steps : List Step) : Prop :=
  ∃ before call after, Step.trace level steps = before ++ call :: after ∧
    SinkCall.startsAfter true before = true ∧ call.level = Level.top.count ∧ call.text ≠ ""

namespace Step.MeetsTop

/-- The steps after such a line do not matter. -/
theorem append_left (meets : Step.MeetsTop level first) :
    Step.MeetsTop level (first ++ second) := by
  obtain ⟨before, call, after, calls, start, top, filled⟩ := meets
  refine ⟨before, call, after ++ Step.trace (Step.endLevel level first) second, ?_, start, top,
    filled⟩
  rw [Step.trace_append, calls, List.append_assoc, List.cons_append]

/-- The steps before such a line matter only for the level that they leave. -/
theorem append_right (start : SinkCall.startsAfter true (Step.trace level first) = true)
    (meets : Step.MeetsTop (Step.endLevel level first) second) :
    Step.MeetsTop level (first ++ second) := by
  obtain ⟨before, call, after, calls, next, top, filled⟩ := meets
  refine ⟨Step.trace level first ++ before, call, after, ?_, ?_, top, filled⟩
  · rw [Step.trace_append, calls, List.append_assoc]
  · rw [SinkCall.startsAfter_append, start, next]

/-- The whole indent of the highest level is part of the text. -/
theorem written (meets : Step.MeetsTop level steps) (unit newline : String) :
    ∃ before after, SinkCall.writtenAll unit newline true (Step.trace level steps) =
      before ++ indentText unit Level.top.count ++ after := by
  obtain ⟨before, call, after, calls, start, top, filled⟩ := meets
  refine ⟨SinkCall.writtenAll unit newline true before,
    call.text ++ (if call.endsLine then newline else "")
      ++ SinkCall.writtenAll unit newline (call.startsNext true) after, ?_⟩
  rw [calls, SinkCall.writtenAll_append, start, SinkCall.writtenAll, SinkCall.written,
    fragmentText_true filled, top]
  simp only [String.append_assoc]

end Step.MeetsTop

/-- Steps lay out lines, unless they come to the highest level and would have to go deeper. -/
structure Lays (steps : List Step) (level : Level) (placed : List PlacedLine) : Prop where
  /-- They end at their first level. -/
  balanced : Step.InRange level steps → Step.endLevel level steps = level
  /-- They write the lines. -/
  text : Step.InRange level steps → ∀ unit newline,
    SinkCall.writtenAll unit newline true (Step.trace level steps) =
      Outline.text unit newline placed
  /-- They end at the start of a line. -/
  start : Step.InRange level steps → SinkCall.startsAfter true (Step.trace level steps) = true
  /-- Before they would have to go too deep, they write a line at the highest level. -/
  meetsTop : ¬Step.InRange level steps → Step.MeetsTop level steps

/-- No steps lay out no lines. -/
theorem Lays.nil (level : Level) : Lays [] level [] where
  balanced _ := rfl
  text _ _ _ := rfl
  start _ := rfl
  meetsTop beyond := absurd trivial beyond

/-- A report lays out no lines. -/
theorem Lays.report (event : Event) (level : Level) : Lays [.report event] level [] where
  balanced _ := rfl
  text _ _ _ := rfl
  start _ := rfl
  meetsTop beyond := absurd trivial beyond

/-- Steps one after the other lay out their lines one after the other. -/
theorem Lays.append (head : Lays first level placed) (tail : Lays second level later) :
    Lays (first ++ second) level (placed ++ later) := by
  have parts (inside : Step.InRange level (first ++ second)) :
      Step.InRange level first ∧ Step.InRange level second := by
    obtain ⟨inFirst, inSecond⟩ := (Step.inRange_append level first second).mp inside
    rw [head.balanced inFirst] at inSecond
    exact ⟨inFirst, inSecond⟩
  constructor
  case balanced =>
    intro inside
    obtain ⟨inFirst, inSecond⟩ := parts inside
    rw [Step.endLevel_append, head.balanced inFirst, tail.balanced inSecond]
  case text =>
    intro inside unit newline
    obtain ⟨inFirst, inSecond⟩ := parts inside
    rw [Step.trace_append, head.balanced inFirst, SinkCall.writtenAll_append,
      head.start inFirst, head.text inFirst, tail.text inSecond, text_append]
  case start =>
    intro inside
    obtain ⟨inFirst, inSecond⟩ := parts inside
    rw [Step.trace_append, head.balanced inFirst, SinkCall.startsAfter_append,
      head.start inFirst, tail.start inSecond]
  case meetsTop =>
    intro beyond
    by_cases inFirst : Step.InRange level first
    · have outside : ¬Step.InRange level second := fun inSecond => beyond <| by
        rw [Step.inRange_append, head.balanced inFirst]
        exact ⟨inFirst, inSecond⟩
      refine .append_right (head.start inFirst) ?_
      rw [head.balanced inFirst]
      exact tail.meetsTop outside
    · exact (head.meetsTop inFirst).append_left

/-- Steps for every item of a list lay out the lines of every item. -/
theorem Lays.flatMap {α : Type} {items : List α} {stepsOf : α → List Step}
    {linesOf : α → List PlacedLine} (each : ∀ item, Lays (stepsOf item) level (linesOf item)) :
    Lays (items.flatMap stepsOf) level (items.flatMap linesOf) := by
  induction items with
  | nil => exact .nil level
  | cons item rest ih => exact (each item).append ih

/-- Steps lay out lines but leave the last one open. They do not change the level. -/
structure LaysOpen (steps : List Step) (level : Level) (lines : List String) : Prop where
  /-- They stay in range. -/
  inRange : Step.InRange level steps
  /-- They end at their first level. -/
  balanced : Step.endLevel level steps = level
  /-- They write the lines that have ended and then the open one, which starts with its first
  text. -/
  written : ∃ ended last, lines = ended ++ [last] ∧
    (∀ unit newline, SinkCall.writtenAll unit newline true (Step.trace level steps) =
      Outline.text unit newline (place level ended) ++ fragmentText unit true level last) ∧
    SinkCall.startsAfter true (Step.trace level steps) = (last == "")

/-- Before the first step the open line is empty. -/
theorem LaysOpen.nil (level : Level) : LaysOpen [] level [""] :=
  ⟨trivial, rfl, [], "", rfl, fun _ _ => rfl, rfl⟩

/-- A step that leaves the level alone keeps open lines in range and at their level. -/
theorem LaysOpen.step {lines : List String} (opened : LaysOpen steps level lines) (step : Step)
    (keeps : Step.InRange level [step] ∧ Step.endLevel level [step] = level) :
    Step.InRange level (steps ++ [step]) ∧ Step.endLevel level (steps ++ [step]) = level := by
  rw [Step.inRange_append, Step.endLevel_append, opened.balanced]
  exact ⟨⟨opened.inRange, keeps.1⟩, keeps.2⟩

/-- Lines go on behind the ones that have ended. -/
theorem continued_append (ended : List String) (last : String) (others : List String) :
    continued (ended ++ [last]) others = ended ++ continued [last] others := by
  induction ended with
  | nil => rfl
  | cons line rest ih =>
    cases rest with
    | nil => rfl
    | cons second rest =>
      change line :: continued (second :: rest ++ [last]) others = _
      rw [ih]
      rfl

/-- An empty line goes on with other lines as these stand. -/
theorem continued_empty {others : List String} (some_line : others ≠ []) :
    continued [""] others = others := by
  cases others with
  | nil => exact absurd rfl some_line
  | cons next rest => rw [continued, String.empty_append]

/-- The calls that go on with an open line and leave the last line open. -/
theorem openCalls_continued (level : Nat) (last : String) {others : List String}
    (some_line : others ≠ []) :
    ∃ ended final, continued [last] others = ended ++ [final] ∧
      (∀ unit newline, fragmentText unit true level last
          ++ SinkCall.writtenAll unit newline (last == "") (Operation.openCalls level others) =
        Outline.text unit newline (place level ended) ++ fragmentText unit true level final) ∧
      SinkCall.startsAfter (last == "") (Operation.openCalls level others) = (final == "") := by
  induction others generalizing last with
  | nil => exact absurd rfl some_line
  | cons piece rest ih =>
    cases rest with
    | nil =>
      refine ⟨[], last ++ piece, rfl, fun unit newline => ?_, ?_⟩
      · rw [Operation.openCalls, SinkCall.writtenAll, SinkCall.writtenAll, SinkCall.written_open,
          String.append_empty, fragmentText_append]
        exact String.empty_append.symm
      · rw [Operation.openCalls, SinkCall.startsAfter, List.foldl_cons, SinkCall.startsNext_open,
          List.foldl_nil, Bool.eq_iff_iff]
        simp only [Bool.and_eq_true, beq_iff_eq, String.append_eq_empty_iff]
    | cons next rest =>
      obtain ⟨ended, final, split, text, start⟩ := ih "" (List.cons_ne_nil next rest)
      rw [continued_empty (List.cons_ne_nil next rest)] at split
      refine ⟨(last ++ piece) :: ended, final, ?_, fun unit newline => ?_, start⟩
      · rw [continued, split, List.cons_append]
      · have rest_text : SinkCall.writtenAll unit newline true
            (Operation.openCalls level (next :: rest)) =
            Outline.text unit newline (place level ended)
              ++ fragmentText unit true level final := by
          rw [← text unit newline, fragmentText_empty, String.empty_append, beq_self_eq_true]
        have first_line : place level ((last ++ piece) :: ended) =
            [⟨level, last ++ piece⟩] ++ place level ended := rfl
        rw [Operation.openCalls_cons_cons, SinkCall.writtenAll, SinkCall.written_closed,
          SinkCall.startsNext_closed, rest_text, first_line, text_append, text_singleton,
          fragmentText_append]
        simp only [String.append_assoc]

/-- The calls that end every one of some lines lay them out. -/
theorem closedCalls_placed (level : Nat) (lines : List String) :
    (∀ unit newline, SinkCall.writtenAll unit newline true (Operation.closedCalls level lines) =
      Outline.text unit newline (place level lines)) ∧
    SinkCall.startsAfter true (Operation.closedCalls level lines) = true := by
  induction lines with
  | nil => exact ⟨fun _ _ => rfl, rfl⟩
  | cons line rest ih =>
    have first_line : place level (line :: rest) = [⟨level, line⟩] ++ place level rest := rfl
    refine ⟨fun unit newline => ?_, ih.2⟩
    rw [Operation.closedCalls, List.map_cons, SinkCall.writtenAll, SinkCall.written_closed,
      SinkCall.startsNext_closed, ← Operation.closedCalls, ih.1, first_line, text_append,
      text_singleton]

/-- The calls that go on with an open line and end every line. -/
theorem closedCalls_continued (level : Nat) (last : String) {others : List String}
    (some_line : others ≠ []) :
    (∀ unit newline, fragmentText unit true level last
        ++ SinkCall.writtenAll unit newline (last == "") (Operation.closedCalls level others) =
      Outline.text unit newline (place level (continued [last] others))) ∧
    SinkCall.startsAfter (last == "") (Operation.closedCalls level others) = true := by
  cases others with
  | nil => exact absurd rfl some_line
  | cons piece rest =>
    obtain ⟨rest_text, rest_start⟩ := closedCalls_placed level rest
    have first_line : place level (continued [last] (piece :: rest)) =
        [⟨level, last ++ piece⟩] ++ place level rest := rfl
    refine ⟨fun unit newline => ?_, rest_start⟩
    rw [Operation.closedCalls, List.map_cons, SinkCall.writtenAll, SinkCall.written_closed,
      SinkCall.startsNext_closed, ← Operation.closedCalls, rest_text, first_line, text_append,
      text_singleton, fragmentText_append]
    simp only [String.append_assoc]

/-- The trace of one text is that of its physical lines. -/
theorem trace_text (level : Level) (content : String) :
    Step.trace level [.text content] = Operation.openCalls level (physicalLines content) := by
  rw [← lines_eq_physicalLines]
  exact List.append_nil _

/-- The trace of one text with all its lines ended is that of its physical lines. -/
theorem trace_lines (level : Level) (content : String) :
    Step.trace level [.lines content] = Operation.closedCalls level (physicalLines content) := by
  rw [← lines_eq_physicalLines]
  exact List.append_nil _

/-- A text goes on with the open line and leaves its own last line open. -/
theorem LaysOpen.text {lines : List String} (opened : LaysOpen steps level lines)
    (content : String) :
    LaysOpen (steps ++ [.text content]) level (continued lines (physicalLines content)) := by
  obtain ⟨inRange, returns⟩ := opened.step (.text content) ⟨⟨trivial, trivial⟩, rfl⟩
  obtain ⟨-, balanced, ended, last, rfl, written, start⟩ := opened
  obtain ⟨more, final, split, text, ending⟩ :=
    openCalls_continued level last (physicalLines_ne_nil content)
  refine ⟨inRange, returns, ended ++ more, final, ?_, fun unit newline => ?_, ?_⟩
  · rw [continued_append, split, List.append_assoc]
  · rw [Step.trace_append, balanced, trace_text, SinkCall.writtenAll_append, written, start,
      String.append_assoc, text, place_append, text_append, String.append_assoc]
  · rw [Step.trace_append, balanced, trace_text, SinkCall.startsAfter_append, start, ending]

/-- A text goes on with the open line and ends all its lines. -/
theorem LaysOpen.lines {lines : List String} (opened : LaysOpen steps level lines)
    (content : String) :
    Lays (steps ++ [.lines content]) level
      (place level (continued lines (physicalLines content))) := by
  obtain ⟨inRange, returns⟩ := opened.step (.lines content) ⟨⟨trivial, trivial⟩, rfl⟩
  obtain ⟨-, balanced, ended, last, rfl, written, start⟩ := opened
  obtain ⟨text, ending⟩ := closedCalls_continued level last (physicalLines_ne_nil content)
  refine ⟨fun _ => returns, fun _ unit newline => ?_, fun _ => ?_, absurd inRange⟩
  · rw [Step.trace_append, balanced, trace_lines, SinkCall.writtenAll_append, written, start,
      String.append_assoc, text, continued_append, place_append, text_append]
  · rw [Step.trace_append, balanced, trace_lines, SinkCall.startsAfter_append, start, ending]

/-- A line end ends the open line. -/
theorem LaysOpen.endLine {lines : List String} (opened : LaysOpen steps level lines) :
    Lays (steps ++ [.endLine]) level (place level lines) := by
  obtain ⟨inRange, returns⟩ := opened.step .endLine ⟨⟨trivial, trivial⟩, rfl⟩
  obtain ⟨-, balanced, ended, last, rfl, written, start⟩ := opened
  have ending : Step.trace level [.endLine] = [⟨true, level, ""⟩] := rfl
  refine ⟨fun _ => returns, fun _ unit newline => ?_, fun _ => ?_, absurd inRange⟩
  · have last_line : place level [last] = [⟨level, last⟩] := rfl
    rw [Step.trace_append, balanced, ending, SinkCall.writtenAll_append, written,
      SinkCall.writtenAll, SinkCall.writtenAll, SinkCall.written_closed, fragmentText_empty,
      place_append, text_append, last_line, text_singleton]
    simp only [String.empty_append, String.append_empty, String.append_assoc]
  · rw [Step.trace_append, balanced, ending, SinkCall.startsAfter_append]
    rfl

/-- A text at the start of a line leaves its last line open. -/
theorem LaysOpen.single (content : String) (level : Level) :
    LaysOpen [.text content] level (physicalLines content) := by
  have opened := (LaysOpen.nil level).text content
  rwa [continued_empty (physicalLines_ne_nil content)] at opened

/-- A text at the start of a line lays out its lines. -/
theorem Lays.lines (content : String) (level : Level) :
    Lays [.lines content] level (place level (physicalLines content)) := by
  have laid := (LaysOpen.nil level).lines content
  rwa [continued_empty (physicalLines_ne_nil content)] at laid

/-- A line end at the start of a line lays out a blank line. -/
theorem Lays.endLine (level : Level) : Lays [.endLine] level [⟨level, ""⟩] :=
  (LaysOpen.nil level).endLine

/-- A block lays out its body one level deeper, between braces. From the highest level on there is
no level for the body. -/
theorem Lays.block (inside : ∀ inner : Level, inner.count = level.count + 1 →
      Lays body inner placed) :
    Lays (Generator.block body) level (braces level placed) := by
  have opening := Lays.lines "\x7b" level
  have closing := Lays.lines "\x7d" level
  have calls (below : level ≠ .top) (inner : Step.InRange level.deeper body) :
      Step.trace level (Generator.block body) = Step.trace level [.lines "\x7b"]
        ++ Step.trace level.deeper body ++ Step.trace level [.lines "\x7d"] :=
    Step.trace_block below ((inside _ (Level.count_deeper below)).balanced inner)
  have whole : Step.InRange level [.lines "\x7b"] ∧ Step.InRange level [.lines "\x7d"] :=
    ⟨⟨trivial, trivial⟩, trivial, trivial⟩
  constructor
  case balanced =>
    intro inRange
    obtain ⟨below, inner⟩ := Step.inRange_block.mp inRange
    exact Step.endLevel_block below ((inside _ (Level.count_deeper below)).balanced inner)
  case text =>
    intro inRange unit newline
    obtain ⟨below, inner⟩ := Step.inRange_block.mp inRange
    have laid := inside _ (Level.count_deeper below)
    rw [calls below inner, SinkCall.writtenAll_append, SinkCall.writtenAll_append,
      SinkCall.startsAfter_append, opening.start whole.1, laid.start inner,
      opening.text whole.1, laid.text inner, closing.text whole.2, ← text_append, ← text_append]
    rfl
  case start =>
    intro inRange
    obtain ⟨below, inner⟩ := Step.inRange_block.mp inRange
    have laid := inside _ (Level.count_deeper below)
    rw [calls below inner, SinkCall.startsAfter_append, SinkCall.startsAfter_append,
      opening.start whole.1, laid.start inner, closing.start whole.2]
  case meetsTop =>
    intro beyond
    have opens : Step.MeetsTop .top [.lines "\x7b", .indent] :=
      ⟨[], ⟨true, Level.top, "\x7b"⟩, [], rfl, rfl, rfl, by decide⟩
    rw [Generator.block, List.append_assoc]
    by_cases below : level = .top
    · rw [below]
      exact opens.append_left
    · have outside : ¬Step.InRange level.deeper body := fun inner =>
        beyond (Step.inRange_block.mpr ⟨below, inner⟩)
      have meets := (inside _ (Level.count_deeper below)).meetsTop outside
      exact .append_right rfl meets.append_left

end MessageContracts
