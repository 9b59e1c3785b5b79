import Mathlib.Data.List.Basic
import MessageContracts.Generation

/-!
# Steps that report nothing

Most steps of a pass write and report nothing. Of a class only its first step is a report, and so it
is with an interface; the lines that open and close the wrappers hold no report at all.
-/

namespace MessageContracts

namespace Step

/-- Steps that report nothing. -/
def Quiet (steps : List Step) : Prop := steps.flatMap events = []

namespace Quiet

variable {first second body : List Step}

/-- Steps one after the other. -/
theorem append (head : Quiet first) (tail : Quiet second) : Quiet (first ++ second) := by
  rw [Quiet, List.flatMap_append, head, tail, List.append_nil]

/-- Steps for every item of a list. -/
theorem flatMap {α : Type} {items : List α} {stepsOf : α → List Step}
    (each : ∀ item, Quiet (stepsOf item)) : Quiet (items.flatMap stepsOf) := by
  rw [Quiet, List.flatMap_assoc, List.flatMap_eq_nil_iff]
  exact fun item _ => each item

/-- Steps in a block. -/
theorem block (inside : Quiet body) : Quiet (Generator.block body) := by
  have opening : Quiet [lines "\x7b", indent] := rfl
  have closing : Quiet [dedent, lines "\x7d"] := rfl
  exact (opening.append inside).append closing

/-- Nothing is reported by steps that report nothing, whatever the sink makes of them. -/
theorem performAll_events {σ : Type} [LineSink σ] {steps : List Step} (quiet : Quiet steps)
    (sink : σ) : (performAll steps sink).events = [] := by
  induction steps generalizing sink with
  | nil => rfl
  | cons step rest ih =>
    obtain ⟨silent, others⟩ := List.append_eq_nil_iff.mp quiet
    rw [performAll]
    cases step.perform sink with
    | error fault stopped => rfl
    | ok _ reached =>
      dsimp only
      rw [silent, ih others]
      rfl

end Quiet

end Step

namespace Generator

open Step

/-- The body of a class reports nothing. -/
theorem quiet_bodySteps (generator : Generator) (contract : Message) :
    Quiet (generator.bodySteps contract) := by
  rw [bodySteps]
  split
  · rfl
  · have constructors (first second third : String) :
        Quiet [.lines first, .text second, .text third, .lines ")"] := rfl
    have assignments : Quiet (contract.members.flatMap generator.assignmentSteps) :=
      .flatMap fun _ => rfl
    refine ((Quiet.flatMap fun member => ?_).append (constructors _ _ _)).append assignments.block
    rfl

/-- A class without its report reports nothing. -/
theorem quiet_class (generator : Generator) (contract : Message) :
    Quiet ([.text (generator.settings.classHeader.render #v[contract.name])]
      ++ baseSteps contract.modifiers ++ [.endLine]
      ++ block (generator.bodySteps contract)) := by
  have heading (content : String) : Quiet [.text content] := rfl
  have bases : Quiet (baseSteps contract.modifiers) := by
    rw [baseSteps]
    split <;> rfl
  have ending : Quiet [.endLine] := rfl
  exact (((heading _).append bases).append ending).append
    (quiet_bodySteps generator contract).block

/-- An interface without its report reports nothing. -/
theorem quiet_interface (generator : Generator) (declaration : String) (messages : List Message) :
    Quiet ([.endLine, .lines declaration] ++ block (messages.map fun message =>
      .lines (generator.settings.interfaceMember.render #v[message.name]))) := by
  have heading : Quiet [.endLine, .lines declaration] := rfl
  have lines : Quiet (messages.map fun message =>
      .lines (generator.settings.interfaceMember.render #v[message.name])) := by
    rw [List.map_eq_flatMap]
    exact .flatMap fun _ => rfl
  exact heading.append lines.block

/-- The steps that open the namespace and the region. -/
def openingSteps (settings : Settings) : List Step :=
  (match settings.namespaceToOpen with
    | none => []
    | some name => [.lines ("namespace " ++ name), .lines "\x7b", .indent])
  ++ match settings.regionToOpen with
    | none => []
    | some region => [.lines ("#region " ++ region)]

/-- The steps that close the region and the namespace. -/
def closingSteps (settings : Settings) : List Step :=
  (match settings.regionToOpen with
    | none => []
    | some _ => [.lines "#endregion"])
  ++ match settings.namespaceToOpen with
    | none => []
    | some _ => [.dedent, .lines "\x7d"]

/-- The steps of the wrappers stand around the others. -/
theorem inNamespace_inRegion (settings : Settings) (body : List Step) :
    inNamespace settings (inRegion settings body) =
      openingSteps settings ++ body ++ closingSteps settings := by
  rw [inNamespace, inRegion, openingSteps, closingSteps]
  cases settings.namespaceToOpen <;> cases settings.regionToOpen <;> simp [block]

/-- They report nothing. -/
theorem quiet_wrappers (settings : Settings) :
    Quiet (openingSteps settings) ∧ Quiet (closingSteps settings) := by
  rw [openingSteps, closingSteps]
  cases settings.namespaceToOpen <;> cases settings.regionToOpen <;> exact ⟨rfl, rfl⟩

end Generator

end MessageContracts
