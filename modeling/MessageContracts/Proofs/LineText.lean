import MessageContracts.CallLog

/-!
# The text that calls come to

The text of a row of calls depends on the indent unit, on the newline, and on whether the first
call starts a line. A text that starts a line carries the indent of its own level; the empty text
starts nothing. What takes the text, and how much of it, is not considered here.
-/

namespace MessageContracts

/-- The indent of a level: one unit for each. -/
def indentText (unit : String) (level : Nat) : String := String.join (List.replicate level unit)

/-- What a piece of a line comes to. -/
def fragmentText (unit : String) (atLineStart : Bool) (level : Nat) (text : String) : String :=
  if text = "" then "" else (if atLineStart then indentText unit level else "") ++ text

/-- One level more is one unit more in front. -/
theorem indentText_succ (unit : String) (level : Nat) :
    indentText unit (level + 1) = unit ++ indentText unit level := by
  rw [indentText, List.replicate_succ, String.join_cons, indentText]

/-- The empty piece comes to nothing. -/
@[simp] theorem fragmentText_empty (unit : String) (atLineStart : Bool) (level : Nat) :
    fragmentText unit atLineStart level "" = "" := if_pos rfl

/-- A piece that goes on with a line comes to itself. -/
@[simp] theorem fragmentText_false (unit : String) (level : Nat) (text : String) :
    fragmentText unit false level text = text := by
  by_cases blank : text = ""
  · rw [blank, fragmentText_empty]
  · rw [fragmentText, if_neg blank, if_neg Bool.false_ne_true, String.empty_append]

/-- A piece that starts a line comes with the indent of its level. -/
theorem fragmentText_true {text : String} (filled : text ≠ "") (unit : String) (level : Nat) :
    fragmentText unit true level text = indentText unit level ++ text := by
  rw [fragmentText, if_neg filled, if_pos rfl]

namespace SinkCall

/-- What a call comes to. -/
def written (unit newline : String) (atLineStart : Bool) (call : SinkCall) : String :=
  fragmentText unit atLineStart call.level call.text ++ if call.endsLine then newline else ""

/-- Whether the text after a call starts a line. -/
def startsNext (atLineStart : Bool) (call : SinkCall) : Bool :=
  call.endsLine || (atLineStart && call.text == "")

/-- A call that leaves the line open comes to its piece. -/
@[simp] theorem written_open (unit newline : String) (atLineStart : Bool) (level : Nat)
    (text : String) : written unit newline atLineStart ⟨false, level, text⟩ =
      fragmentText unit atLineStart level text := String.append_empty

/-- A call that ends the line comes to its piece and the newline. -/
@[simp] theorem written_closed (unit newline : String) (atLineStart : Bool) (level : Nat)
    (text : String) : written unit newline atLineStart ⟨true, level, text⟩ =
      fragmentText unit atLineStart level text ++ newline := rfl

/-- After a call that leaves the line open, a line starts only where nothing was written. -/
@[simp] theorem startsNext_open (atLineStart : Bool) (level : Nat) (text : String) :
    startsNext atLineStart ⟨false, level, text⟩ = (atLineStart && text == "") := rfl

/-- After a call that ends the line, a line starts. -/
@[simp] theorem startsNext_closed (atLineStart : Bool) (level : Nat) (text : String) :
    startsNext atLineStart ⟨true, level, text⟩ = true := rfl

/-- What calls come to one after the other. -/
def writtenAll (unit newline : String) : Bool → List SinkCall → String
  | _, [] => ""
  | atLineStart, call :: rest =>
    call.written unit newline atLineStart
      ++ writtenAll unit newline (call.startsNext atLineStart) rest

/-- Whether the text after some calls starts a line. -/
def startsAfter (atLineStart : Bool) (calls : List SinkCall) : Bool :=
  calls.foldl startsNext atLineStart

/-- Whether a line starts is passed from one row of calls to the next. -/
theorem startsAfter_append (atLineStart : Bool) (first second : List SinkCall) :
    startsAfter atLineStart (first ++ second) =
      startsAfter (startsAfter atLineStart first) second :=
  List.foldl_append

/-- The text of two rows of calls is that of the first and then that of the second. -/
theorem writtenAll_append (unit newline : String) (atLineStart : Bool)
    (first second : List SinkCall) :
    writtenAll unit newline atLineStart (first ++ second) =
      writtenAll unit newline atLineStart first
        ++ writtenAll unit newline (startsAfter atLineStart first) second := by
  induction first generalizing atLineStart with
  | nil => exact String.empty_append.symm
  | cons call rest ih =>
    rw [List.cons_append, writtenAll, ih, writtenAll, String.append_assoc]
    rfl

end SinkCall

end MessageContracts
