import MessageContracts.Text.Characters
import MessageContracts.Trace.Filter
import MessageContracts.Trace.Pattern

/-!
# The setting of a trace filter

A filter is set by directives with commas between them. The parts of a directive are found in its
text without the blanks at both ends, but they are cut from its whole text at the same bytes: blanks
in front move all parts, so that they may even cut a character in two, and blanks at the end belong
to the last part.
-/

namespace MessageContracts

/-- Why a setting sets no filter. -/
inductive SettingFault where
  /-- It is not a list of directives. -/
  | malformed
  /-- A part of a directive cuts a character in two. -/
  | splitCharacter
deriving DecidableEq, Repr

/-- Whether a text is a number: digits with at most one dot and perhaps an exponent, infinity or no
number at all, with or without a sign. -/
def isNumber (text : List Char) : Bool :=
  let takeSign : List Char → List Char
    | '+' :: rest => rest
    | '-' :: rest => rest
    | rest => rest
  let text := takeSign text
  let isMark (c : Char) : Bool := c == 'e' || c == 'E'
  let mantissa := text.takeWhile (!isMark ·)
  let whole := mantissa.takeWhile (· != '.')
  let fraction := (mantissa.dropWhile (· != '.')).drop 1
  let exponent := match text.dropWhile (!isMark ·) with
    | [] => ['0']
    | _ :: rest => takeSign rest
  ["inf", "infinity", "nan"].contains (String.ofList (text.map Char.toLower))
  || (!(whole ++ fraction).isEmpty && (whole ++ fraction).all Char.isDigit
    && !exponent.isEmpty && exponent.all Char.isDigit)

namespace TraceDirective

/-- The directive that governs everything. -/
def universal : TraceDirective := ⟨none, false, none, everything⟩

/-- With the field that a text names. A value after its name is a number or a pattern, and no record
of the program is looked up by its values. -/
def addField (directive : TraceDirective) (text : List Char) :
    Except SettingFault TraceDirective :=
  let name := String.ofList (text.takeWhile (· != '='))
  if text.isEmpty then .error .malformed
  else match text.dropWhile (· != '=') with
    | [] => .ok { directive with field := some name }
    | _ :: rest =>
      let value := rest.takeWhile (· != '=')
      if isNumber value || Pattern.isValid value then
        .ok { directive with field := some name, inSpan := true }
      else .error .malformed

/-- With the verbosity that a text after an equals sign gives. -/
def addVerbosity (directive : TraceDirective) (text : List Char) :
    Except SettingFault TraceDirective :=
  if text.isEmpty then .ok directive
  else match verbosityOf? (String.ofList text) with
    | some verbosity => .ok { directive with verbosity }
    | none => .error .malformed

/-- With a verbosity or a target, whichever a word on its own is. -/
def addWord (directive : TraceDirective) (word : List Char) : TraceDirective :=
  match verbosityOf? (String.ofList word) with
  | some verbosity => { directive with verbosity }
  | none => { directive with target := some (String.ofList word) }

/-- What part of a directive is being read, with the byte at which it starts. -/
inductive Part where
  /-- Nothing has been read. -/
  | start
  /-- A verbosity or a target. -/
  | word (first : Nat)
  /-- The name of a span. -/
  | span (first : Nat)
  /-- A field with or without a value. -/
  | field (first : Nat)
  /-- The end of the fields. -/
  | fields
  /-- The end of the selector. -/
  | selected
  /-- A verbosity. -/
  | verbosity (first : Nat)
deriving DecidableEq, Repr

/-- Whether a directive may start with this character. -/
def isStart (c : Char) : Bool := c == '-' || c == ':' || c == '_' || Text.isAlphanumeric c

/-- The part of a text between two bytes. -/
def cut (text : List Char) (first last : Nat) : Except SettingFault (List Char) :=
  match Text.between? first last text with
  | some part => .ok part
  | none => .error .splitCharacter

/-- The part of a text from a byte on. -/
def cutRest (text : List Char) (first : Nat) : Except SettingFault (List Char) :=
  match Text.dropBytes? first text with
  | some part => .ok part
  | none => .error .splitCharacter

/-- What a character at a byte adds to a directive, and the part that is read after it. -/
def step (text : List Char) (position : Nat) (c : Char) (part : Part)
    (directive : TraceDirective) : Except SettingFault (Part × TraceDirective) :=
  match part with
  | .start =>
    if c = '[' then .ok (.span (position + 1), directive)
    else if isStart c then .ok (.word position, directive)
    else .error .malformed
  | .word first =>
    if c = '=' ∨ c = '[' then do
      let target := String.ofList (← cut text first position)
      let part := if c = '=' then Part.verbosity (position + 1) else .span (position + 1)
      return (part, { directive with target := some target })
    else .ok (part, directive)
  | .span first =>
    if c = ']' then do
      let _ ← cut text first position
      return (.selected, { directive with inSpan := true })
    else if c = '{' then do
      let span ← cut text first position
      return (.field (position + 1), { directive with inSpan := !span.isEmpty })
    else .ok (part, directive)
  | .field first =>
    if c = '}' then do
      return (.fields, ← directive.addField (← cut text first position))
    else .ok (part, directive)
  | .fields => if c = ']' then .ok (.selected, directive) else .error .malformed
  | .selected =>
    if c = '=' then .ok (.verbosity (position + 1), directive) else .error .malformed
  | .verbosity _ => .ok (part, directive)

/-- What the end of a directive adds to it. -/
def finish (text : List Char) (part : Part) (directive : TraceDirective) :
    Except SettingFault TraceDirective :=
  match part with
  | .word first => do return directive.addWord (← cutRest text first)
  | .verbosity first => do directive.addVerbosity (← cutRest text first)
  | .selected => .ok directive
  | .start | .span _ | .field _ | .fields => .error .malformed

/-- Read the rest of a directive from a byte on. -/
def scan (text : List Char) :
    List Char → Nat → Part → TraceDirective → Except SettingFault TraceDirective
  | [], _, part, directive => finish text part directive
  | c :: rest, position, part, directive => do
    let (part, directive) ← step text position c part directive
    scan text rest (position + c.utf8Size) part directive

/-- The directive that a text describes. -/
def ofText (text : String) : Except SettingFault TraceDirective :=
  scan text.toList (Text.trimmed text.toList) 0 .start universal

end TraceDirective

namespace TraceFilter

/-- The filter that a text sets, which shows failures only if there is no directive. -/
def ofText (text : String) : Except SettingFault TraceFilter := do
  let words := (text.splitOn ",").filter (· != "")
  if words.isEmpty then return failuresOnly
  else return ⟨← words.mapM TraceDirective.ofText⟩

/-- The filter of a setting if there is one, and the stock filter in place of one that is malformed.
A setting that cuts a character in two stops the program. -/
def ofSetting? (setting : Option String) (verbose : Bool) : Option TraceFilter :=
  match setting.map ofText with
  | none => some (stock verbose)
  | some (.ok filter) => some filter
  | some (.error .malformed) => some (stock verbose)
  | some (.error .splitCharacter) => none

/-- The exit code of a program that its setting has stopped. -/
def stopCode : Nat := 101

end TraceFilter

end MessageContracts
