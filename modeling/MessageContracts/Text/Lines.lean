/-!
# The physical lines of a text

A line ends at a line feed, and one carriage return in front of the line feed, or at the very end
of the text, belongs to the line break rather than to the line.
-/

namespace MessageContracts.Text

/-- The pieces between the line feeds: one more than there are line feeds. -/
def splitLines : List Char → List (List Char)
  | [] => [[]]
  | c :: rest =>
    if c = '\n' then [] :: splitLines rest
    else match splitLines rest with
      | [] => [[c]]
      | line :: lines => (c :: line) :: lines

/-- The line without one carriage return at its end. -/
def dropReturn (line : List Char) : List Char :=
  if line.getLast? = some '\r' then line.dropLast else line

/-- The physical lines of a text; the empty text is one empty line. -/
def lines (text : String) : List String :=
  (splitLines text.toList).map fun line => String.ofList (dropReturn line)

/-- A text always has a first piece. -/
theorem splitLines_ne_nil (text : List Char) : splitLines text ≠ [] := by
  cases text with
  | nil => simp [splitLines]
  | cons c rest =>
    by_cases h : c = '\n'
    · simp [splitLines, h]
    · simp only [splitLines, if_neg h]
      split <;> simp

/-- A text always has a first physical line. -/
theorem lines_ne_nil (text : String) : lines text ≠ [] := by
  simp [lines, splitLines_ne_nil]

/-- The first physical line of a text. -/
def firstLine (text : String) : String :=
  (lines text).headD ""

end MessageContracts.Text
