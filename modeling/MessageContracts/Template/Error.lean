import MessageContracts.Text.Quoted

/-!
# What can be wrong with a template

A template is refused for one of four reasons, each found at a definite byte of its source. The
report always carries the whole source.
-/

namespace MessageContracts

/-- The reason why a source text is no template. -/
inductive TemplateFault where
  /-- The brace at this byte opens a placeholder that never closes. -/
  | unclosedPlaceholder (position : Nat)
  /-- The brace at this byte closes nothing. -/
  | unmatchedClosingBrace (position : Nat)
  /-- The text between two braces is not the number of an argument. -/
  | invalidPlaceholder (body : String)
  /-- The placeholder names an argument that is never supplied. -/
  | placeholderOutOfRange (index arity : Nat)
deriving DecidableEq, Repr

/-- A refused template together with the reason. -/
structure TemplateError where
  /-- The whole source. -/
  template : String
  /-- Why it was refused. -/
  fault : TemplateFault
deriving DecidableEq, Repr

/-- A text between braces. -/
def braced (body : String) : String := "\x7b" ++ body ++ "\x7d"

/-- The wording of the report. -/
def TemplateError.message (e : TemplateError) : String :=
  let source := Text.quoted e.template
  match e.fault with
  | .unclosedPlaceholder position =>
    "unclosed placeholder at byte " ++ position.repr ++ " in template " ++ source
  | .unmatchedClosingBrace position =>
    "unmatched '\x7d' at byte " ++ position.repr ++ " in template " ++ source
  | .invalidPlaceholder body =>
    "invalid placeholder " ++ braced body ++ " in template " ++ source
  | .placeholderOutOfRange index arity =>
    "placeholder " ++ braced index.repr ++ " is out of range in template " ++ source
      ++ " (takes " ++ arity.repr ++ " argument(s))"

end MessageContracts
