import MessageContracts.Trace

/-!
# Which trace records are shown

A filter is a list of directives. A directive names the records that it governs, by the beginning
of their target and by a field that they have, and the verbosity up to which they are shown. Of the
directives that govern a record the most specific one decides, and of equally specific ones the
latest; a record that no directive governs is not shown.
-/

namespace MessageContracts

/-- A directive of a trace filter. -/
structure TraceDirective where
  /-- How the targets of the governed records begin; any target if absent. -/
  target : Option String
  /-- Whether only records inside some span, or with a field of a certain value, are governed. -/
  inSpan : Bool
  /-- The field that the governed records have; any fields if absent. -/
  field : Option String
  /-- The verbosity up to which the governed records are shown. -/
  verbosity : Nat
deriving DecidableEq, Repr

namespace TraceRecord

/-- The names of everything that a record carries. -/
def fieldNames (entry : TraceRecord) : List String := "message" :: entry.fields.map (·.1)

end TraceRecord

namespace TraceDirective

/-- Whether a directive governs a record. No record is inside a span. -/
def governs (directive : TraceDirective) (entry : TraceRecord) : Bool :=
  !directive.inSpan
  && directive.target.all (fun target => target.toList.isPrefixOf entry.target.toList)
  && directive.field.all entry.fieldNames.contains

/-- How much text of a target the directive gives. -/
def targetSize (directive : TraceDirective) : Nat :=
  match directive.target with
  | none => 0
  | some target => target.utf8ByteSize

/-- Whether the first directive is at least as specific as the second: by the length of its target,
then by its field. -/
def atLeastAsSpecific (a b : TraceDirective) : Bool :=
  b.targetSize < a.targetSize
  || (a.targetSize == b.targetSize && (b.field.getD "" ≤ a.field.getD ""))

/-- The verbosity that a word stands for, by name or by number. -/
def verbosityOf? (word : String) : Option Nat :=
  let names := ["off", "error", "warn", "info", "debug", "trace"]
  let digits := match word.toList with
    | '+' :: rest => rest
    | rest => rest
  if !digits.isEmpty && digits.all Char.isDigit then
    let value := Nat.ofDigitChars 10 digits 0
    if value < names.length then some value else none
  else names.findIdx? (· == word.map Char.toLower)

/-- The verbosity of everything. -/
def everything : Nat := Severity.trace.verbosity

end TraceDirective

/-- A filter of trace records. -/
structure TraceFilter where
  /-- The directives as they were given. -/
  directives : List TraceDirective
deriving DecidableEq, Repr

namespace TraceFilter

/-- The directive that decides on a record. -/
def deciding? (filter : TraceFilter) (entry : TraceRecord) : Option TraceDirective :=
  (filter.directives.filter (·.governs entry)).foldl
    (fun best directive =>
      if best.all directive.atLeastAsSpecific then some directive else best) none

/-- Whether a record is shown. -/
def admits (filter : TraceFilter) (entry : TraceRecord) : Bool :=
  (filter.deciding? entry).any fun directive =>
    entry.severity.verbosity ≤ directive.verbosity

/-- The filter that shows failures only. -/
def failuresOnly : TraceFilter := ⟨[⟨none, false, none, Severity.error.verbosity⟩]⟩

/-- The filter unless another is set: results of the program itself, or its steps too, and
suspicious things of anything else. -/
def stock (verbose : Bool) : TraceFilter :=
  let severity := if verbose then Severity.debug else Severity.info
  ⟨[⟨some "codedsl", false, none, severity.verbosity⟩,
    ⟨some "codedsl_core", false, none, severity.verbosity⟩,
    ⟨none, false, none, Severity.warn.verbosity⟩]⟩

end TraceFilter

end MessageContracts
