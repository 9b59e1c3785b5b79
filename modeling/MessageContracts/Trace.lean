import MessageContracts.Text.Quoted

/-!
# Trace records

A record says what the program is doing: a severity, the part of the program it comes from, a
message, and named values in a fixed order.
-/

namespace MessageContracts

/-- How much a record matters. -/
inductive Severity where
  /-- A failure. -/
  | error
  /-- Something suspicious. -/
  | warn
  /-- A result. -/
  | info
  /-- A step on the way. -/
  | debug
  /-- A detail of a step. -/
  | trace
deriving DecidableEq, Repr

namespace Severity

/-- The verbosity at which the severity starts to be shown: failures first. -/
def verbosity : Severity → Nat
  | .error => 1
  | .warn => 2
  | .info => 3
  | .debug => 4
  | .trace => 5

/-- The name of the severity in a log line. -/
def label : Severity → String
  | .error => "ERROR"
  | .warn => "WARN"
  | .info => "INFO"
  | .debug => "DEBUG"
  | .trace => "TRACE"

end Severity

/-- A named value of a record. -/
inductive FieldValue where
  /-- A number. -/
  | count (n : Nat)
  /-- A text shown as it stands. -/
  | plain (text : String)
  /-- A text shown in quotes. -/
  | quoted (text : String)
deriving DecidableEq, Repr

/-- How the value is shown. -/
def FieldValue.text : FieldValue → String
  | .count n => n.repr
  | .plain text => text
  | .quoted text => Text.quoted text

/-- One record of what the program is doing. -/
structure TraceRecord where
  /-- How much the record matters. -/
  severity : Severity
  /-- The part of the program that it comes from. -/
  target : String
  /-- What is happening. -/
  message : String
  /-- The values that belong to it. -/
  fields : List (String × FieldValue)
deriving DecidableEq, Repr

namespace TraceRecord

/-- The values as they are shown, in order. -/
def fieldTexts (entry : TraceRecord) : List String :=
  entry.fields.map fun field => field.1 ++ "=" ++ field.2.text

/-- The record as a log line without its time. -/
def line (entry : TraceRecord) : String :=
  " ".intercalate (entry.severity.label :: entry.message :: entry.fieldTexts)

end TraceRecord

end MessageContracts
