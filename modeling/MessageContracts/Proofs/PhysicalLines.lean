import MessageContracts.Text.Lines

/-!
# Physical lines as pieces between line feeds

The lines of a text, found in one walk over its characters, are what splitting at the line feeds
gives once each piece has lost one carriage return at its end.
-/

namespace MessageContracts.Text

/-- A piece without one carriage return at its end. -/
def withoutReturn (piece : List Char) : List Char :=
  if ['\r'] <:+ piece then piece.take (piece.length - 1) else piece

/-- The physical lines of a text: its pieces between line feeds, each without one carriage return
at its end. -/
def physicalLines (text : String) : List String :=
  (text.toList.splitOn '\n').map fun piece => String.ofList (withoutReturn piece)

/-- Walking over the characters finds the pieces between the line feeds. -/
theorem splitLines_eq_splitOn (text : List Char) : splitLines text = text.splitOn '\n' := by
  induction text with
  | nil => rw [splitLines, List.splitOn_nil]
  | cons c rest ih =>
    rw [splitLines, ih, List.splitOn_cons_eq_if_modifyHead]
    by_cases feed : c = '\n'
    · rw [if_pos feed, if_pos (beq_iff_eq.mpr feed)]
    · rw [if_neg feed, if_neg (mt beq_iff_eq.mp feed)]
      cases pieces : rest.splitOn '\n' with
      | nil => exact absurd pieces (List.splitOn_ne_nil _ _)
      | cons line lines => rfl

/-- Both ways of dropping one carriage return agree. -/
theorem dropReturn_eq_withoutReturn (piece : List Char) :
    dropReturn piece = withoutReturn piece := by
  by_cases ending : piece.getLast? = some '\r'
  · rw [dropReturn, withoutReturn, if_pos ending,
      if_pos (List.singleton_suffix_iff_getLast?_eq_some.mpr ending), List.dropLast_eq_take]
  · rw [dropReturn, withoutReturn, if_neg ending,
      if_neg (mt List.singleton_suffix_iff_getLast?_eq_some.mp ending)]

/-- The lines that are written are the physical lines. -/
theorem lines_eq_physicalLines (text : String) : lines text = physicalLines text := by
  rw [lines, physicalLines, splitLines_eq_splitOn]
  exact List.map_congr_left fun piece _ => by rw [dropReturn_eq_withoutReturn]

/-- A text always has a physical line. -/
theorem physicalLines_ne_nil (text : String) : physicalLines text ≠ [] := by
  rw [← lines_eq_physicalLines]
  exact lines_ne_nil text

/-- A text without a line break. -/
def Breakless (text : String) : Prop := '\n' ∉ text.toList ∧ '\r' ∉ text.toList

instance (text : String) : Decidable (Breakless text) :=
  inferInstanceAs (Decidable ('\n' ∉ text.toList ∧ '\r' ∉ text.toList))

/-- Two texts without line breaks have none together. -/
theorem Breakless.append {first second : String} (head : Breakless first)
    (tail : Breakless second) : Breakless (first ++ second) := by
  rw [Breakless, String.toList_append, List.mem_append, List.mem_append]
  exact ⟨not_or_intro head.1 tail.1, not_or_intro head.2 tail.2⟩

/-- A piece without carriage returns has none to lose. -/
theorem withoutReturn_of_not_mem {piece : List Char} (free : '\r' ∉ piece) :
    withoutReturn piece = piece :=
  if_neg fun ending => free (ending.subset (List.mem_singleton.mpr rfl))

/-- A text without line breaks is one line. -/
theorem physicalLines_of_breakless {text : String} (free : Breakless text) :
    physicalLines text = [text] := by
  rw [physicalLines, List.splitOn_eq_singleton free.1, List.map_singleton,
    withoutReturn_of_not_mem free.2, String.ofList_toList]

/-- A line feed ends a line of its own. -/
theorem physicalLines_append_feed {line : String} (free : Breakless line) (rest : String) :
    physicalLines (line ++ "\n" ++ rest) = line :: physicalLines rest := by
  have chars : (line ++ "\n" ++ rest).toList = line.toList ++ '\n' :: rest.toList := by
    rw [String.toList_append, String.toList_append, List.append_assoc]
    rfl
  have pieces : (line.toList ++ '\n' :: rest.toList).splitOn '\n' =
      line.toList.splitOn '\n' ++ rest.toList.splitOn '\n' :=
    List.splitOnP_append_cons _ _ (beq_self_eq_true '\n')
  rw [physicalLines, chars, pieces, List.splitOn_eq_singleton free.1, List.singleton_append,
    List.map_cons, withoutReturn_of_not_mem free.2, String.ofList_toList, physicalLines]

/-- A carriage return in front of a line feed goes with it; one between other characters stays. -/
example : physicalLines "a\rb\r\n\r\r\nc\r" = ["a\rb", "\r", "c"] := by decide

end MessageContracts.Text
