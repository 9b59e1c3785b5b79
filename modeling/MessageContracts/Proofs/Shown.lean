import Mathlib.Data.List.Basic
import MessageContracts.Proofs.SourceLayout

/-!
# What the generated source shows of a model

Of a message the source shows its name, the types and spelt names of its members, and the interfaces
of its modifiers; of an entity it shows one interface for each rule that some message joins. Nothing
else of a model has any part in its outline.
-/

namespace MessageContracts

open Text Generator

/-- What a class shows of its message. -/
@[ext] structure ShownClass where
  /-- The name. -/
  name : String
  /-- The type and the field name of every member. -/
  fields : List (String × String)
  /-- The interfaces of the modifiers. -/
  interfaces : List String
deriving DecidableEq, Repr

/-- The type of a member and its field name, by the conventions of C#. -/
def Member.shown (member : Member) : String × String :=
  (member.type, Spelling.pascalCase member.name)

/-- What the class of a message shows of it, by the conventions of C#. -/
def Message.shown (contract : Message) : ShownClass :=
  ⟨contract.name, contract.members.map Member.shown, contract.modifiers.map (·.interface)⟩

/-- An interface that is emitted. -/
@[ext] structure EmittedInterface where
  /-- The name of the entity. -/
  entity : String
  /-- The rule that gives rise to it. -/
  rule : InterfaceRule
  /-- The names of the messages that join it. -/
  messages : List String
deriving DecidableEq

/-- The interface of a rule for an entity that is emitted under a name, unless no message joins. -/
def InterfaceRule.emitted? (rule : InterfaceRule) (name : String) (entity : Entity) :
    Option EmittedInterface :=
  if (joining rule entity).isEmpty then none
  else some ⟨name, rule, (joining rule entity).map (·.name)⟩

/-- The interfaces of an entity, in the order of the rules. -/
def Settings.entityInterfaces (settings : Settings) (entity : Entity) : List EmittedInterface :=
  match entity.properName with
  | none => []
  | some name => settings.interfaces.filterMap (·.emitted? name entity)

/-- The interfaces that a model gives rise to, in the order of emission. -/
def Settings.emittedInterfaces (settings : Settings) (model : Model) : List EmittedInterface :=
  model.entities.flatMap settings.entityInterfaces

namespace Outline

variable (settings : Settings) (level : Nat)

/-- The field declarations are those of the shown members, numbered on from a position. -/
theorem fieldLines_eq_shown (position : Nat) (members : List Member) :
    fieldLines (ofSettings settings) level position members =
      ((members.map Member.shown).zipIdx position).flatMap fun (field, position) =>
        place level
          (physicalLines (settings.member.render #v[position.repr, field.1, field.2])) := by
  induction members generalizing position with
  | nil => rfl
  | cons member rest ih =>
    rw [fieldLines, ih, List.map_cons, List.zipIdx_cons, List.flatMap_cons]
    rfl

/-- The parameters are those of the shown members. -/
theorem parameters_eq_shown (members : List Member) :
    (members.map fun member =>
      member.type ++ " " ++ (ofSettings settings).spelling.parameter member.name) =
      (members.map Member.shown).map fun field =>
        field.1 ++ " " ++ Spelling.escapeReserved (lowerFirst field.2) := by
  rw [List.map_map, ofSettings_parameter]
  refine List.map_congr_left fun member _ => ?_
  rw [Function.comp_apply, Member.shown, Spelling.parameterName]

/-- The assignments are those of the shown members. -/
theorem assignmentLines_eq_shown (members : List Member) :
    assignmentLines (ofSettings settings) level members =
      (members.map Member.shown).flatMap fun field => place level (physicalLines
        (field.2 ++ " = " ++ Spelling.escapeReserved (lowerFirst field.2) ++ ";")) := by
  rw [assignmentLines, List.flatMap_map, ofSettings_member, ofSettings_parameter]
  refine List.flatMap_congr fun member _ => ?_
  rw [Member.shown, Spelling.parameterName]

/-- The heading of a class is that of what the class shows. -/
theorem classHeading_eq_of_shown_eq {contract other : Message}
    (same : contract.shown = other.shown) :
    classHeading (ofSettings settings) contract = classHeading (ofSettings settings) other := by
  obtain ⟨name, -, interfaces⟩ := ShownClass.mk.inj same
  rw [classHeading, classHeading, name]
  cases modifiers : contract.modifiers with
  | nil =>
    rw [modifiers, List.map_nil, List.nil_eq, List.map_eq_nil_iff] at interfaces
    rw [interfaces]
  | cons modifier rest =>
    cases others : other.modifiers with
    | nil =>
      rw [modifiers, others] at interfaces
      exact absurd interfaces (List.cons_ne_nil _ _)
    | cons otherModifier otherRest =>
      rw [modifiers, others] at interfaces
      dsimp only
      rw [interfaces]

/-- Classes that show the same have the same lines. -/
theorem classLines_eq_of_shown_eq {contract other : Message}
    (same : contract.shown = other.shown) :
    classLines (ofSettings settings) level contract =
      classLines (ofSettings settings) level other := by
  have heading := classHeading_eq_of_shown_eq settings same
  obtain ⟨name, members, -⟩ := ShownClass.mk.inj same
  have fields := fieldLines_eq_shown settings (level + 1) 1 contract.members
  have assignments := assignmentLines_eq_shown settings (level + 1 + 1) contract.members
  have parameters := parameters_eq_shown settings contract.members
  rw [members, ← fieldLines_eq_shown] at fields
  rw [members, ← assignmentLines_eq_shown] at assignments
  rw [members, ← parameters_eq_shown] at parameters
  have constructorHeading : constructorLines (ofSettings settings) contract =
      constructorLines (ofSettings settings) other := by
    rw [constructorLines, constructorLines, parameters, name]
  rw [classLines, classLines, heading, classBody, classBody, constructorHeading, name]
  cases listed : contract.members with
  | nil =>
    rw [listed, List.map_nil, List.nil_eq, List.map_eq_nil_iff] at members
    rw [members]
  | cons member rest =>
    cases others : other.members with
    | nil =>
      rw [listed, others] at members
      exact absurd members (List.cons_ne_nil _ _)
    | cons otherMember otherRest =>
      rw [listed, others] at fields assignments
      dsimp only
      rw [fields, assignments]

/-- The lines of an interface that is emitted. -/
def emittedLines (emitted : EmittedInterface) : List PlacedLine :=
  ⟨level, ""⟩ :: place level (physicalLines (emitted.rule.name.render (.singleton emitted.entity)))
  ++ braces level (emitted.messages.flatMap fun name => place (level + 1)
    (physicalLines (settings.interfaceMember.render (.singleton name))))

/-- The interface of a rule has the lines of what it emits. -/
theorem interfaceLines_eq_emitted (name : String) (entity : Entity) (rule : InterfaceRule) :
    interfaceLines (ofSettings settings) level name entity rule =
      (rule.emitted? name entity).toList.flatMap (emittedLines settings level) := by
  rw [interfaceLines, ← joining_eq_filter, InterfaceRule.emitted?]
  cases joining rule entity with
  | nil => rfl
  | cons message rest =>
    rw [List.isEmpty_cons, if_neg Bool.false_ne_true, Option.toList_some, List.flatMap_singleton,
      emittedLines, List.flatMap_map]
    rfl

/-- The interfaces of the entities have the lines of what they emit. -/
theorem flatMap_entityLines_eq_emitted (model : Model) :
    model.entities.flatMap (entityLines (ofSettings settings) level) =
      (settings.emittedInterfaces model).flatMap (emittedLines settings level) := by
  rw [Settings.emittedInterfaces, List.flatMap_assoc]
  refine List.flatMap_congr fun entity _ => ?_
  have rules (name : String) :
      settings.interfaces.flatMap (interfaceLines (ofSettings settings) level name entity) =
        (settings.interfaces.filterMap (·.emitted? name entity)).flatMap
          (emittedLines settings level) := by
    rw [List.filterMap_eq_flatMap_toList, List.flatMap_assoc]
    exact List.flatMap_congr fun rule _ => interfaceLines_eq_emitted settings level name entity rule
  rw [entityLines, Settings.entityInterfaces, Entity.properName, Entity.nameless]
  cases entity.name with
  | none => rfl
  | some name =>
    rw [filter_bne]
    by_cases nameless : name = "null"
    · simp only [if_pos nameless]
      rfl
    · simp only [if_neg nameless]
      exact rules name

/-- Classes that show the same, one by one, have the same lines. -/
theorem flatMap_classLines_eq_of_shown_eq {contracts others : List Message}
    (same : contracts.map Message.shown = others.map Message.shown) :
    contracts.flatMap (classLines (ofSettings settings) level) =
      others.flatMap (classLines (ofSettings settings) level) := by
  induction contracts generalizing others with
  | nil =>
    rw [List.map_nil, List.nil_eq, List.map_eq_nil_iff] at same
    rw [same]
  | cons contract rest ih =>
    obtain ⟨other, otherRest, rfl, here, later⟩ := List.map_eq_cons_iff.mp same.symm
    rw [List.flatMap_cons, List.flatMap_cons, ih later.symm,
      classLines_eq_of_shown_eq settings level here.symm]

end Outline

namespace Generator

open Outline

/-- Models that show the same have the same outline, whatever the settings are. -/
theorem outline_eq_of_shown_eq {settings : Settings} {model other : Model}
    (classes : model.contracts.map Message.shown = other.contracts.map Message.shown)
    (interfaces : settings.emittedInterfaces model = settings.emittedInterfaces other)
    (level : Nat) :
    (ofSettings settings).outline model level = (ofSettings settings).outline other level := by
  have core : coreLines (ofSettings settings) model = coreLines (ofSettings settings) other := by
    funext inner
    rw [coreLines, coreLines, flatMap_classLines_eq_of_shown_eq settings inner classes,
      flatMap_entityLines_eq_emitted, flatMap_entityLines_eq_emitted, interfaces]
  rw [outline, outline, core]

/-- Models that show the same have the same source. -/
theorem sourceText_eq_of_shown_eq {settings : Settings} {model other : Model}
    (classes : model.contracts.map Message.shown = other.contracts.map Message.shown)
    (interfaces : settings.emittedInterfaces model = settings.emittedInterfaces other) :
    (ofSettings settings).sourceText model = (ofSettings settings).sourceText other := by
  rw [sourceText_eq_outline, sourceText_eq_outline, outline_eq_of_shown_eq classes interfaces]

end Generator

end MessageContracts
