import MessageContracts.Proofs.Delivery
import MessageContracts.Proofs.PhysicalLines

/-!
# The logical lines of a row of operations

A page keeps the lines that operations give rise to as rows of pieces, each piece with the level in
force when it was written. Nothing is laid out while the page grows: the indent of a line is found
afterwards, from the first of its pieces that is not empty. A writer decides on the indent at once,
by one flag, and comes to the same text. What a store with limited room keeps is not considered
here.
-/

namespace MessageContracts

/-- A piece of a line. -/
structure Fragment where
  /-- The level in force when the piece was written. -/
  level : Nat
  /-- The text of the piece, without line ends. -/
  text : String
deriving DecidableEq, Repr

/-- The lines written so far. -/
structure Page where
  /-- The level in force. -/
  level : Level
  /-- The lines that have ended, in order. -/
  finished : List (List Fragment)
  /-- The pieces of the line that has not ended. -/
  openLine : List Fragment
deriving DecidableEq, Repr

namespace Page

/-- A page without lines. -/
def empty (level : Level) : Page := ⟨level, [], []⟩

/-- Go on with the open line. -/
def fragment (page : Page) (text : String) : Page :=
  { page with openLine := page.openLine ++ [⟨page.level.count, text⟩] }

/-- End the open line. -/
def lineEnd (page : Page) : Page :=
  { page with finished := page.finished ++ [page.openLine], openLine := [] }

/-- Go on with some pieces, with a line end between every two of them. -/
def pieces (page : Page) : List String → Page
  | [] => page
  | [last] => page.fragment last
  | piece :: rest => (page.fragment piece).lineEnd.pieces rest

/-- The page after an operation. -/
def after (page : Page) : Operation → Page
  | .put text => page.fragment text
  | .putLine text => (page.fragment text).lineEnd
  | .endLine => page.lineEnd
  | .text content => page.pieces (Text.physicalLines content)
  | .lines content => (page.pieces (Text.physicalLines content)).lineEnd
  | .fill template arguments => page.pieces (Text.physicalLines (template.render arguments))
  | .fillLines template arguments =>
    (page.pieces (Text.physicalLines (template.render arguments))).lineEnd
  | .setLevel level => { page with level }
  | .indent => { page with level := page.level.deeper }
  | .dedent => { page with level := page.level.higher }

/-- A line laid out: its pieces, after the indent of the first one that is not empty. -/
def lineText (unit : String) (line : List Fragment) : String :=
  match line.find? (·.text != "") with
  | none => ""
  | some first => indentText unit first.level ++ String.join (line.map (·.text))

/-- A page laid out: every ended line with a newline after it, then the open line. -/
def text (unit newline : String) (page : Page) : String :=
  String.join (page.finished.map fun line => lineText unit line ++ newline)
    ++ lineText unit page.openLine

/-- Whether every piece of a line is empty. -/
def isBlank (line : List Fragment) : Bool := line.all (·.text == "")

/-- A page extends another one by what some calls write from there. -/
structure Extends (page later : Page) (calls : List SinkCall) : Prop where
  /-- The text grows by that of the calls. -/
  text : ∀ unit newline, later.text unit newline = page.text unit newline
    ++ SinkCall.writtenAll unit newline (isBlank page.openLine) calls
  /-- The open line is blank exactly when the calls leave the writer at the start of a line. -/
  blank : isBlank later.openLine = SinkCall.startsAfter (isBlank page.openLine) calls

/-- No calls leave a page as it is. -/
theorem Extends.of_eq {page later : Page} (finished : later.finished = page.finished)
    (openLine : later.openLine = page.openLine) : Extends page later [] where
  text unit newline := by
    rw [Page.text, Page.text, finished, openLine, SinkCall.writtenAll, String.append_empty]
  blank := by rw [openLine]; rfl

/-- Extensions one after the other are one extension by all the calls. -/
theorem Extends.trans {page middle later : Page} {first second : List SinkCall}
    (head : Extends page middle first) (tail : Extends middle later second) :
    Extends page later (first ++ second) where
  text unit newline := by
    rw [tail.text, head.text, head.blank, SinkCall.writtenAll_append, String.append_assoc]
  blank := by rw [tail.blank, head.blank, SinkCall.startsAfter_append]

end Page

end MessageContracts
