import MessageContracts.Level
import MessageContracts.Store
import MessageContracts.Text.Lines

/-!
# Line-oriented output

A sink takes text, with or without the end of the line, and carries an indent level of its own. A
refused call leaves the sink as the refusal left it: what was accepted before stays accepted.

Multi-line text is broken into its physical lines before it reaches the sink, so that each line
can be laid out on its own.
-/

namespace MessageContracts

open Text

/-- Output by lines, with an indent level. -/
class LineSink (σ : Type) where
  /-- Take text and leave the line open. -/
  put : String → EStateM OutputFault σ Unit
  /-- Take text and end the line. -/
  putLine : String → EStateM OutputFault σ Unit
  /-- End the current line; a sink without a way of its own takes a line without text. -/
  endLine : EStateM OutputFault σ Unit := putLine ""
  /-- The current indent level. -/
  level : σ → Level
  /-- Set the indent level. -/
  setLevel : Level → σ → σ

namespace LineSink

variable {σ : Type} [LineSink σ]

/-- Raise the level by one. The highest level goes around to zero. -/
def indent (sink : σ) : σ := setLevel (level sink).deeper sink

/-- Lower the level by one, but not below zero. -/
def dedent (sink : σ) : σ := setLevel (level sink).higher sink

/-- Write lines and leave the last one open. -/
def putOpen : List String → EStateM OutputFault σ Unit
  | [] => pure ()
  | [last] => put last
  | line :: rest => do putLine line; putOpen rest

/-- Write lines and end each of them. -/
def putClosed : List String → EStateM OutputFault σ Unit
  | [] => pure ()
  | line :: rest => do putLine line; putClosed rest

/-- Write a text of any number of lines and leave the last one open. -/
def putText (text : String) : EStateM OutputFault σ Unit := putOpen (lines text)

/-- Write a text of any number of lines and end the last one too. -/
def putLines (text : String) : EStateM OutputFault σ Unit := putClosed (lines text)

end LineSink

end MessageContracts
