import MessageContracts.Template.Error

/-!
# Positional templates

A template is a text with numbered placeholders. A brace pair around a number stands for the
argument with that number, a doubled brace stands for the brace itself, and every other character
stands for itself. Compiling checks each placeholder against the number of arguments, so that
rendering cannot fail.
-/

namespace MessageContracts

/-- What a stretch of a template's source stands for. -/
inductive Token (arity : Nat) where
  /-- A character of the text. -/
  | char (c : Char)
  /-- The argument with this index. -/
  | argument (index : Fin arity)
deriving DecidableEq, Repr

/-- A piece of a compiled template. -/
inductive Segment (arity : Nat) where
  /-- Text that is copied. -/
  | literal (text : String)
  /-- The argument with this index. -/
  | argument (index : Fin arity)
deriving DecidableEq, Repr

namespace Template

/-- The number that a row of decimal digits stands for. -/
def decimalValue (digits : List Char) : Nat :=
  digits.foldl (fun value digit => value * 10 + (digit.toNat - '0'.toNat)) 0

/-- The least number that no longer fits in 64 bits. -/
def indexLimit : Nat := 18446744073709551616

/-- The index that a placeholder's body names: ASCII digits whose value fits in 64 bits. -/
def placeholderIndex? (body : List Char) : Option Nat :=
  if body ≠ [] ∧ body.all Char.isDigit ∧ decimalValue body < indexLimit then
    some (decimalValue body)
  else none

/-- The argument that a placeholder's body names. -/
def argument? (arity : Nat) (body : List Char) : Except TemplateFault (Fin arity) :=
  match placeholderIndex? body with
  | none => .error (.invalidPlaceholder (String.ofList body))
  | some index =>
    if h : index < arity then .ok ⟨index, h⟩ else .error (.placeholderOutOfRange index arity)

/-- Where a scan stands. -/
inductive Scan where
  /-- Outside every placeholder. -/
  | text
  /-- In the placeholder opened at byte `start`, after these characters, the latest first. -/
  | body (start : Nat) (read : List Char)

/-- Read the source from byte `position` on. A placeholder extends to the first closing brace. -/
def scan (arity : Nat) : Scan → Nat → List Char → Except TemplateFault (List (Token arity))
  | .text, _, [] => .ok []
  | .text, position, '{' :: '{' :: rest =>
    return .char '{' :: (← scan arity .text (position + 2) rest)
  | .text, position, '{' :: rest => scan arity (.body position []) (position + 1) rest
  | .text, position, '}' :: '}' :: rest =>
    return .char '}' :: (← scan arity .text (position + 2) rest)
  | .text, position, '}' :: _ => .error (.unmatchedClosingBrace position)
  | .text, position, c :: rest =>
    return .char c :: (← scan arity .text (position + c.utf8Size) rest)
  | .body start _, _, [] => .error (.unclosedPlaceholder start)
  | .body _ read, position, '}' :: rest => do
    let index ← argument? arity read.reverse
    return .argument index :: (← scan arity .text (position + 1) rest)
  | .body start read, position, c :: rest =>
    scan arity (.body start (c :: read)) (position + c.utf8Size) rest

/-- The literal that the characters read so far, the latest first, amount to. -/
def literal? {arity : Nat} : List Char → List (Segment arity)
  | [] => []
  | read => [.literal (String.ofList read.reverse)]

/-- Join neighbouring characters to literals; `read` are those met last, the latest first. -/
def assemble {arity : Nat} : List Char → List (Token arity) → List (Segment arity)
  | read, [] => literal? read
  | read, .char c :: rest => assemble (c :: read) rest
  | read, .argument index :: rest => literal? read ++ .argument index :: assemble [] rest

/-- The segments of a source text. -/
def compile (arity : Nat) (source : String) : Except TemplateFault (List (Segment arity)) :=
  return assemble [] (← scan arity .text 0 source.toList)

end Template

/-- A compiled template that takes `arity` arguments. -/
structure Template (arity : Nat) where
  /-- The text as written. -/
  source : String
  /-- What the text stands for. -/
  segments : List (Segment arity)
  /-- The segments are those of the source. -/
  compiled : Template.compile arity source = .ok segments

namespace Template

variable {arity : Nat}

/-- A template is determined by its source. -/
theorem ext_source {s t : Template arity} (h : s.source = t.source) : s = t := by
  obtain ⟨source, segments, hs⟩ := s
  obtain ⟨_, segments', ht⟩ := t
  cases h
  cases hs.symm.trans ht
  rfl

instance : DecidableEq (Template arity) := fun s t =>
  decidable_of_iff (s.source = t.source) ⟨ext_source, fun h => h ▸ rfl⟩

/-- Compile a source text. -/
def parse (source : String) : Except TemplateError (Template arity) :=
  match h : compile arity source with
  | .ok segments => .ok ⟨source, segments, h⟩
  | .error fault => .error ⟨source, fault⟩

/-- The template of a source text that is known to compile. -/
def ofSource (source : String) (h : (compile arity source).isOk) : Template arity :=
  match hc : compile arity source with
  | .ok segments => ⟨source, segments, hc⟩
  | .error _ => absurd h (by simp [hc, Except.isOk, Except.toBool])

/-- The text of a segment. -/
def segmentText (args : Vector String arity) : Segment arity → String
  | .literal text => text
  | .argument index => args[index]

/-- Substitute the arguments. What an argument holds is never interpreted. -/
def render (template : Template arity) (args : Vector String arity) : String :=
  String.join (template.segments.map (segmentText args))

/-- Compiling a template's own source gives the template back. -/
theorem parse_source (template : Template arity) : parse template.source = .ok template := by
  obtain ⟨source, segments, h⟩ := template
  unfold parse
  split
  · next found hf => cases hf.symm.trans h; rfl
  · next hf => cases hf.symm.trans h

end Template

end MessageContracts
