import MessageContracts.Proofs.CutOutput
import MessageContracts.Proofs.PhysicalLines

/-!
# The outline of the generated source

The outline is the generated source as a nested list of lines, each with its level. It is written
down from settings, spelling and model alone and knows nothing of open lines or of levels that are
raised and lowered. The text of a generation pass is its outline, laid out line by line.
-/

namespace MessageContracts

open Text

/-- A line of an outline. -/
structure PlacedLine where
  /-- The level of the line. -/
  level : Nat
  /-- The text of the line. -/
  text : String
deriving DecidableEq, Repr

/-- A line laid out: a text behind its indent and before a newline. No text needs no indent. -/
def PlacedLine.written (unit newline : String) (line : PlacedLine) : String :=
  (if line.text = "" then "" else indentText unit line.level) ++ line.text ++ newline

namespace Outline

/-- Lines laid out one after the other. -/
def text (unit newline : String) (lines : List PlacedLine) : String :=
  String.join (lines.map (PlacedLine.written unit newline))

/-- The lines of a text, all at one level. -/
def place (level : Nat) (lines : List String) : List PlacedLine := lines.map (PlacedLine.mk level)

/-- Lines of which the last one goes on with the first of other lines. -/
def continued : List String → List String → List String
  | [last], next :: rest => (last ++ next) :: rest
  | line :: rest, others => line :: continued rest others
  | [], others => others

/-- Lines between braces on lines of their own. -/
def braces (level : Nat) (body : List PlacedLine) : List PlacedLine :=
  ⟨level, "\x7b"⟩ :: body ++ [⟨level, "\x7d"⟩]

variable (generator : Generator)

/-- The field declarations of members, numbered on from a position. -/
def fieldLines (level : Nat) : Nat → List Member → List PlacedLine
  | _, [] => []
  | position, member :: rest =>
    place level (physicalLines (generator.settings.member.render
      #v[position.repr, member.type, generator.spelling.member member.name]))
    ++ fieldLines level (position + 1) rest

/-- The heading of the constructor that takes a parameter for every member. -/
def constructorLines (contract : Message) : List String :=
  let parameters := contract.members.map fun member =>
    member.type ++ " " ++ generator.spelling.parameter member.name
  continued
    (continued (physicalLines ("public " ++ contract.name ++ " ("))
      (physicalLines (", ".intercalate parameters)))
    (physicalLines ")")

/-- The assignments of the parameters to the fields. -/
def assignmentLines (level : Nat) (members : List Member) : List PlacedLine :=
  members.flatMap fun member => place level (physicalLines
    (generator.spelling.member member.name ++ " = "
      ++ generator.spelling.parameter member.name ++ ";"))

/-- The body of a class: nothing without members, else fields and both constructors. -/
def classBody (level : Nat) (contract : Message) : List PlacedLine :=
  match contract.members with
  | [] => []
  | members@(_ :: _) =>
    fieldLines generator level 1 members
    ++ place level (physicalLines
      (generator.settings.privateConstructor.render (.singleton contract.name)))
    ++ place level (constructorLines generator contract)
    ++ braces level (assignmentLines generator (level + 1) members)

/-- The heading of a class, which goes on with the interfaces of its modifiers if it has any. -/
def classHeading (contract : Message) : List String :=
  let heading := physicalLines (generator.settings.classHeader.render (.singleton contract.name))
  match contract.modifiers with
  | [] => heading
  | modifiers@(_ :: _) =>
    continued heading (physicalLines (" : " ++ ", ".intercalate (modifiers.map (·.interface))))

/-- A class. -/
def classLines (level : Nat) (contract : Message) : List PlacedLine :=
  place level (classHeading generator contract)
  ++ braces level (classBody generator (level + 1) contract)

/-- The interface of one rule: a blank line, the declaration, and a line for every message that
carries one of the rule's tags; nothing when there is no such message. -/
def interfaceLines (level : Nat) (name : String) (entity : Entity) (rule : InterfaceRule) :
    List PlacedLine :=
  let joining := entity.messages.filter fun message =>
    decide (∃ modifier ∈ message.modifiers, modifier.identifier ∈ rule.tags)
  match joining with
  | [] => []
  | messages@(_ :: _) =>
    ⟨level, ""⟩ :: place level (physicalLines (rule.name.render (.singleton name)))
    ++ braces level (messages.flatMap fun message => place (level + 1)
      (physicalLines (generator.settings.interfaceMember.render (.singleton message.name))))

/-- The interfaces of an entity, in the order of the rules; none without a name. -/
def entityLines (level : Nat) (entity : Entity) : List PlacedLine :=
  match entity.name with
  | none => []
  | some name =>
    if name = "null" then []
    else generator.settings.interfaces.flatMap (interfaceLines generator level name entity)

/-- All classes, then all interfaces. -/
def coreLines (model : Model) (level : Nat) : List PlacedLine :=
  model.contracts.flatMap (classLines generator level)
  ++ model.entities.flatMap (entityLines generator level)

/-- Lines inside a region, unless its name is absent or empty. -/
def regionLines (region : Option String) (level : Nat) (body : List PlacedLine) :
    List PlacedLine :=
  match region with
  | none => body
  | some name =>
    if name = "" then body
    else place level (physicalLines ("#region " ++ name)) ++ body ++ [⟨level, "#endregion"⟩]

/-- Lines inside a namespace and one level deeper, unless its name is absent or empty. -/
def namespaceLines (nameSpace : Option String) (level : Nat) (body : Nat → List PlacedLine) :
    List PlacedLine :=
  match nameSpace with
  | none => body level
  | some name =>
    if name = "" then body level
    else place level (physicalLines ("namespace " ++ name)) ++ braces level (body (level + 1))

end Outline

/-- The outline of the generated source. -/
def Generator.outline (generator : Generator) (model : Model) (level : Nat) : List PlacedLine :=
  Outline.namespaceLines generator.settings.nameSpace level fun inner =>
    Outline.regionLines generator.settings.region inner (Outline.coreLines generator model inner)

namespace Outline

variable {steps first second body : List Step} {level : Nat} {lines later : List PlacedLine}

/-- Lines laid out in two parts. -/
theorem text_append (unit newline : String) (lines later : List PlacedLine) :
    text unit newline (lines ++ later) = text unit newline lines ++ text unit newline later := by
  rw [text, List.map_append, String.join_append]
  rfl

/-- Placing lines in two parts. -/
theorem place_append (level : Nat) (lines later : List String) :
    place level (lines ++ later) = place level lines ++ place level later := List.map_append

/-- A line laid out at the start of a line. -/
theorem text_singleton (unit newline : String) (level : Nat) (line : String) :
    text unit newline [⟨level, line⟩] = fragmentText unit true level line ++ newline := by
  rw [text, List.map_singleton, String.join_cons, String.join_nil, String.append_empty,
    PlacedLine.written]
  by_cases blank : line = ""
  · simp only [blank, if_true, fragmentText_empty, String.empty_append]
  · rw [if_neg blank, fragmentText_true blank]

/-- Two pieces of one level, one behind the other, come to one piece. -/
theorem fragmentText_append (unit : String) (level : Nat) (first second : String) :
    fragmentText unit true level (first ++ second) =
      fragmentText unit true level first ++ fragmentText unit (first == "") level second := by
  by_cases blank : first = ""
  · rw [blank, String.empty_append, fragmentText_empty, String.empty_append, beq_self_eq_true]
  · have filled : first ++ second ≠ "" := fun empty =>
      blank (String.append_eq_empty_iff.mp empty).1
    rw [beq_eq_false_iff_ne.mpr blank, fragmentText_false, fragmentText_true filled,
      fragmentText_true blank, String.append_assoc]

end Outline

end MessageContracts
