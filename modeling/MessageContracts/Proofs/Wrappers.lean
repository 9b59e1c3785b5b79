import MessageContracts.Proofs.MarkedPass
import MessageContracts.Proofs.RecordedCalls
import MessageContracts.Proofs.SourceLayout

/-!
# Wrappers only wrap

A namespace and a region put calls in front of the body of a pass and behind it. The calls of the
body itself stay as they are, apart from the one level that a namespace adds to each of them. Which
calls the body makes is not considered here.
-/

namespace MessageContracts

namespace Wrapping

/-- Calls inside a region, unless its name is absent or empty. -/
def inRegion (region : Option String) (level : Nat) (body : List SinkCall) : List SinkCall :=
  match region with
  | none => body
  | some name =>
    if name = "" then body
    else Operation.closedCalls level (Text.physicalLines ("#region " ++ name)) ++ body
      ++ [⟨true, level, "#endregion"⟩]

/-- Calls inside a namespace and one level deeper, unless its name is absent or empty. -/
def inNamespace (nameSpace : Option String) (level : Nat) (body : Nat → List SinkCall) :
    List SinkCall :=
  match nameSpace with
  | none => body level
  | some name =>
    if name = "" then body level
    else Operation.closedCalls level (Text.physicalLines ("namespace " ++ name))
      ++ ⟨true, level, "\x7b"⟩ :: body (level + 1) ++ [⟨true, level, "\x7d"⟩]

end Wrapping

namespace Generator

/-- The settings without wrappers. -/
def bare (settings : Settings) : Settings := { settings with nameSpace := none, region := none }

end Generator

end MessageContracts
