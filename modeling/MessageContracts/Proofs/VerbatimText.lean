import MessageContracts.Proofs.Delivery
import MessageContracts.Proofs.LineBreaks

/-!
# What is kept of a text that is written

A text written at level zero, with a line feed as the newline, comes out with a line feed for every
pair of a carriage return and a line feed. The one other character that it can lose is a carriage
return at its very end: the last piece of a text loses it like every other piece, though no line
feed follows. All other carriage returns are kept.
-/

namespace MessageContracts

namespace Text

/-- The characters without the carriage returns that stand directly in front of a line feed. -/
def breaksAsFeeds : List Char → List Char
  | [] => []
  | c :: rest =>
    if c = '\r' ∧ rest.head? = some '\n' then breaksAsFeeds rest else c :: breaksAsFeeds rest

/-- The text with a line feed for every pair of a carriage return and a line feed. -/
def withFeeds (text : String) : String := String.ofList (breaksAsFeeds text.toList)

/-- The text without one carriage return at its very end. -/
def withoutLastReturn (text : String) : String :=
  if text.toList.getLast? = some '\r' then String.ofList text.toList.dropLast else text

/-- A character other than a carriage return is kept. -/
theorem breaksAsFeeds_cons {c : Char} (other : c ≠ '\r') (rest : List Char) :
    breaksAsFeeds (c :: rest) = c :: breaksAsFeeds rest :=
  if_neg fun both => other both.1

/-- A carriage return is kept where no line feed follows. -/
theorem breaksAsFeeds_return {rest : List Char} (alone : rest.head? ≠ some '\n') :
    breaksAsFeeds ('\r' :: rest) = '\r' :: breaksAsFeeds rest :=
  if_neg fun both => alone both.2

/-- A carriage return in front of a line feed is dropped. -/
theorem breaksAsFeeds_break (rest : List Char) :
    breaksAsFeeds ('\r' :: '\n' :: rest) = '\n' :: breaksAsFeeds rest := by
  rw [breaksAsFeeds, if_pos ⟨rfl, rfl⟩, breaksAsFeeds_cons (by decide)]

/-- Losing a carriage return at the end brings no line feed to the front. -/
theorem head?_dropReturn_ne {d : Char} (other : d ≠ '\n') (line : List Char) :
    (dropReturn (d :: line)).head? ≠ some '\n' := by
  cases line with
  | nil =>
    by_cases ending : d = '\r'
    · subst ending
      decide
    · rw [dropReturn_cons ending]
      simpa using other
  | cons next line =>
    rw [dropReturn_cons_cons]
    simpa using other

/-- A text that begins with another character than a line feed begins with its first piece. -/
theorem splitLines_cons_of_ne {d : Char} (other : d ≠ '\n') (rest : List Char) :
    ∃ line lines, splitLines (d :: rest) = (d :: line) :: lines := by
  simp only [splitLines, if_neg other]
  cases pieces : splitLines rest with
  | nil => exact absurd pieces (splitLines_ne_nil rest)
  | cons line lines => exact ⟨line, lines, rfl⟩

/-- A character in front of the first of some pieces stands in front of all of them. -/
theorem intercalate_cons_head (separator : List Char) (c : Char) (line : List Char)
    (lines : List (List Char)) :
    separator.intercalate ((c :: line) :: lines) = c :: separator.intercalate (line :: lines) := by
  cases lines with
  | nil => rw [List.intercalate_singleton, List.intercalate_singleton]
  | cons second lines =>
    rw [List.intercalate_cons_cons, List.intercalate_cons_cons, List.cons_append, List.cons_append]

/-- The pieces of a text, each without one carriage return at its end and with line feeds between
them again, are the text with its breaks as line feeds and without one carriage return at its very
end. -/
theorem intercalate_splitLines (text : List Char) :
    ['\n'].intercalate ((splitLines text).map dropReturn) = breaksAsFeeds (dropReturn text) := by
  induction text with
  | nil => rfl
  | cons c rest ih =>
    by_cases feed : c = '\n'
    · subst feed
      have ended : splitLines ('\n' :: rest) = [] :: splitLines rest := rfl
      have none_there : dropReturn [] = [] := rfl
      rw [ended, dropReturn_cons (by decide), breaksAsFeeds_cons (by decide), ← ih, List.map_cons,
        none_there]
      cases pieces : splitLines rest with
      | nil => exact absurd pieces (splitLines_ne_nil rest)
      | cons line lines => rfl
    obtain ⟨line, lines, pieces⟩ := List.exists_cons_of_ne_nil (splitLines_ne_nil rest)
    have longer : splitLines (c :: rest) = (c :: line) :: lines := by
      simp only [splitLines, if_neg feed, pieces]
    rw [pieces, List.map_cons] at ih
    rw [longer, List.map_cons]
    by_cases other : c = '\r'
    · subst other
      cases rest with
      | nil =>
        cases pieces
        rfl
      | cons d rest =>
        rw [dropReturn_cons_cons]
        by_cases next : d = '\n'
        · -- The carriage return is all there is of its piece, and goes with the line feed.
          subst next
          cases pieces
          have alone : dropReturn ['\r'] = dropReturn [] := rfl
          rw [alone, ih, dropReturn_cons (by decide), breaksAsFeeds_break,
            breaksAsFeeds_cons (by decide)]
        · obtain ⟨inner, others, piece⟩ := splitLines_cons_of_ne next rest
          rw [pieces] at piece
          cases piece
          rw [dropReturn_cons_cons, intercalate_cons_head, ih,
            breaksAsFeeds_return (head?_dropReturn_ne next rest)]
    · rw [dropReturn_cons other, intercalate_cons_head, ih, dropReturn_cons other,
        breaksAsFeeds_cons other]

/-- The lines of a text with line feeds between them. -/
theorem intercalate_lines (text : String) :
    "\n".intercalate (lines text) = withFeeds (withoutLastReturn text) := by
  apply String.toList_inj.mp
  have feed : "\n".toList = ['\n'] := rfl
  have pieces : (lines text).map String.toList = (splitLines text.toList).map dropReturn := by
    rw [lines, List.map_map]
    exact List.map_congr_left fun line _ => String.toList_ofList
  have ending : (withoutLastReturn text).toList = dropReturn text.toList := by
    rw [withoutLastReturn, dropReturn, apply_ite String.toList, String.toList_ofList]
  rw [String.toList_intercalate, feed, pieces, intercalate_splitLines, withFeeds,
    String.toList_ofList, ending]

/-- A carriage return at the very end stays where breaks become line feeds. -/
theorem breaksAsFeeds_append_return (body : List Char) :
    breaksAsFeeds (body ++ ['\r']) = breaksAsFeeds body ++ ['\r'] := by
  induction body with
  | nil => rfl
  | cons c rest ih =>
    rw [List.cons_append]
    by_cases broken : c = '\r' ∧ rest.head? = some '\n'
    · have still : (rest ++ ['\r']).head? = some '\n' := by
        rw [List.head?_append, broken.2, Option.some_or]
      rw [breaksAsFeeds, if_pos ⟨broken.1, still⟩, ih, breaksAsFeeds, if_pos broken]
    · have still : ¬(c = '\r' ∧ (rest ++ ['\r']).head? = some '\n') := by
        intro both
        cases rest with
        | nil => simp at both
        | cons d rest => exact broken both
      rw [breaksAsFeeds, if_neg still, ih, breaksAsFeeds, if_neg broken, List.cons_append]

/-- A carriage return at the very end of a text is no part of a break. -/
theorem withFeeds_withoutLastReturn_eq_iff (text : String) :
    withFeeds (withoutLastReturn text) = withFeeds text ↔ text.toList.getLast? ≠ some '\r' := by
  rw [withoutLastReturn]
  by_cases ending : text.toList.getLast? = some '\r'
  · obtain ⟨body, whole⟩ := List.getLast?_eq_some_iff.mp ending
    have longer := congrArg List.length (breaksAsFeeds_append_return body)
    rw [List.length_append, List.length_singleton] at longer
    rw [if_pos ending, withFeeds, withFeeds, String.toList_ofList, whole, List.dropLast_concat]
    refine iff_of_false (fun same => ?_) (fun other => other List.getLast?_concat)
    have lengths := congrArg List.length (String.ofList_injective same)
    omega
  · rw [if_neg ending]
    exact iff_of_true rfl ending

end Text

namespace LineWriter

/-- At level zero, lines of which the last stays open come to the lines with newlines between. -/
theorem writtenAll_openCalls_zero (unit newline : String) (start : Bool) (lines : List String) :
    SinkCall.writtenAll unit newline start (Operation.openCalls 0 lines) =
      newline.intercalate lines := by
  have bare (start : Bool) (line : String) : fragmentText unit start 0 line = line := by
    cases start with
    | false => exact fragmentText_false unit 0 line
    | true =>
      by_cases blank : line = ""
      · rw [blank, fragmentText_empty]
      · exact (fragmentText_true blank unit 0).trans String.empty_append
  induction lines generalizing start with
  | nil => rfl
  | cons line rest ih =>
    cases rest with
    | nil =>
      rw [Operation.openCalls, SinkCall.writtenAll, SinkCall.writtenAll, SinkCall.written_open,
        bare, String.append_empty, String.intercalate_singleton]
    | cons second rest =>
      rw [Operation.openCalls_cons_cons, SinkCall.writtenAll, SinkCall.written_closed, bare,
        SinkCall.startsNext_closed, ih, String.intercalate_cons_cons]

/-- What a text written at level zero leaves in a store of unlimited room. -/
theorem putText_onto_unlimited (unit newline text : String) :
    ∃ writer, LineSink.putText text (LineWriter.onto .unlimited unit newline 0) = .ok () writer ∧
      writer.store.content = (newline.intercalate (Text.lines text)).toUTF8 := by
  have offers := offers_putOpen (Text.lines text) (.onto .unlimited unit newline 0)
  obtain ⟨writer, done, content, -⟩ := offers.of_room_eq_none rfl
  refine ⟨writer, done, content.trans ?_⟩
  have lines := writtenAll_openCalls_zero unit newline true (Text.lines text)
  exact ByteArray.empty_append.trans (congrArg String.toByteArray lines)

/-- A text written at level zero with a line feed as the newline comes out with its breaks as line
feeds and without one carriage return at its very end. Nothing else is lost of it, so it comes out
verbatim up to its breaks exactly when no carriage return stands at its end. -/
theorem putText_keeps_text (unit text : String) :
    ∃ writer, LineSink.putText text (LineWriter.onto .unlimited unit "\n" 0) = .ok () writer ∧
      writer.store.content = (Text.withFeeds (Text.withoutLastReturn text)).toUTF8 ∧
      (writer.store.content = (Text.withFeeds text).toUTF8 ↔
        text.toList.getLast? ≠ some '\r') := by
  obtain ⟨writer, done, content⟩ := putText_onto_unlimited unit "\n" text
  rw [Text.intercalate_lines] at content
  refine ⟨writer, done, content, ?_⟩
  rw [content, ← Text.withFeeds_withoutLastReturn_eq_iff]
  exact String.toByteArray_inj

/-- A carriage return at the very end of a text is lost, though it is no part of a break. -/
theorem putText_loses_last_return :
    ∃ writer, LineSink.putText "a\r" LineWriter.fresh = .ok () writer ∧
      writer.store.content = "a".toUTF8 ∧
      writer.store.content ≠ (Text.withFeeds "a\r").toUTF8 := by
  obtain ⟨writer, done, content⟩ := putText_onto_unlimited stockUnit "\n" "a\r"
  have written : "\n".intercalate (Text.lines "a\r") = "a" := by decide
  have whole : Text.withFeeds "a\r" = "a\r" := by decide
  rw [written] at content
  refine ⟨writer, done, content, ?_⟩
  rw [content, whole]
  exact fun same => absurd (String.toByteArray_inj.mp same) (by decide)

end LineWriter

end MessageContracts
