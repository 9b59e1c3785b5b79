import MessageContracts.Proofs.Outline

/-!
# Levels behind an empty unit

An indent of empty units is empty at every level. With such a unit the text of a row of calls does
not show their levels, and the text of an outline does not show those of its lines. Steps make the
same calls from every level on, apart from the levels, and an outline has the same lines at every
level. With an empty unit the text of a pass and that of its outline are therefore the same for
every level to start from, the highest ones too.
-/

namespace MessageContracts

open Text

/-- Empty units make up an empty indent. -/
theorem indentText_of_empty_unit (level : Nat) : indentText "" level = "" := by
  induction level with
  | zero => rfl
  | succ level ih => rw [indentText_succ, ih, String.empty_append]

/-- Behind an empty unit a piece does not show its level. -/
theorem fragmentText_of_empty_unit (atLineStart : Bool) (level other : Nat) (text : String) :
    fragmentText "" atLineStart level text = fragmentText "" atLineStart other text := by
  rw [fragmentText, fragmentText, indentText_of_empty_unit, indentText_of_empty_unit]

namespace SinkCall

/-- The call at level zero. -/
def grounded (call : SinkCall) : SinkCall := { call with level := 0 }

/-- Whether a line starts after some calls has nothing to do with their levels. -/
theorem startsAfter_grounded (atLineStart : Bool) (calls : List SinkCall) :
    startsAfter atLineStart (calls.map grounded) = startsAfter atLineStart calls :=
  List.foldl_map

/-- Behind an empty unit the text of some calls does not show their levels. -/
theorem writtenAll_grounded (newline : String) (atLineStart : Bool) (calls : List SinkCall) :
    writtenAll "" newline atLineStart (calls.map grounded) =
      writtenAll "" newline atLineStart calls := by
  induction calls generalizing atLineStart with
  | nil => rfl
  | cons call rest ih =>
    have next : call.grounded.startsNext atLineStart = call.startsNext atLineStart := rfl
    have first : call.grounded.written "" newline atLineStart =
        call.written "" newline atLineStart := by
      rw [written, written, fragmentText_of_empty_unit _ call.level call.grounded.level]
      rfl
    rw [List.map_cons, writtenAll, first, next, ih, writtenAll]

end SinkCall

namespace Operation

/-- The calls that leave the last line open, without their levels. -/
theorem openCalls_grounded (level : Nat) (lines : List String) :
    (openCalls level lines).map SinkCall.grounded = openCalls 0 lines := by
  induction lines with
  | nil => rfl
  | cons line rest ih =>
    cases rest with
    | nil => rfl
    | cons second rest =>
      rw [openCalls_cons_cons, List.map_cons, ih]
      rfl

/-- The calls that end every line, without their levels. -/
theorem closedCalls_grounded (level : Nat) (lines : List String) :
    (closedCalls level lines).map SinkCall.grounded = closedCalls 0 lines := by
  rw [closedCalls, List.map_map]
  rfl

/-- An operation makes the same calls from every level on, apart from the level. -/
theorem calls_grounded (level other : Level) (operation : Operation) :
    (operation.calls level).map SinkCall.grounded =
      (operation.calls other).map SinkCall.grounded := by
  cases operation with
  | text | fill => simp only [calls, openCalls_grounded]
  | lines | fillLines => simp only [calls, closedCalls_grounded]
  | put | putLine | endLine | setLevel | indent | dedent => rfl

/-- Operations make the same calls from every level on, apart from the levels. -/
theorem trace_grounded (level other : Level) (operations : List Operation) :
    (trace level operations).map SinkCall.grounded =
      (trace other operations).map SinkCall.grounded := by
  induction operations generalizing level other with
  | nil => rfl
  | cons operation rest ih =>
    rw [trace, trace, List.map_append, List.map_append, calls_grounded level other,
      ih (operation.levelAfter level) (operation.levelAfter other)]

end Operation

namespace Outline

/-- Behind an empty unit the text of an outline does not show the levels of its lines. -/
theorem text_eq_of_texts_eq {lines later : List PlacedLine}
    (same : lines.map PlacedLine.text = later.map PlacedLine.text) (newline : String) :
    text "" newline lines = text "" newline later := by
  have written : PlacedLine.written "" newline = (· ++ newline) ∘ PlacedLine.text := by
    funext line
    rw [PlacedLine.written, indentText_of_empty_unit, ite_self, String.empty_append]
    rfl
  rw [text, text, written, ← List.map_map, ← List.map_map, same]

/-- The texts of placed lines. -/
@[simp] theorem texts_place (level : Nat) (lines : List String) :
    (place level lines).map PlacedLine.text = lines := by
  rw [place, List.map_map]
  exact List.map_id _

/-- The texts of lines between braces. -/
@[simp] theorem texts_braces (level : Nat) (body : List PlacedLine) :
    (braces level body).map PlacedLine.text =
      "\x7b" :: body.map PlacedLine.text ++ ["\x7d"] := by
  rw [braces, List.map_append]
  rfl

variable (generator : Generator) (level other : Nat)

/-- The fields of a class are the same at every level. -/
theorem texts_fieldLines (position : Nat) (members : List Member) :
    (fieldLines generator level position members).map PlacedLine.text =
      (fieldLines generator other position members).map PlacedLine.text := by
  induction members generalizing position with
  | nil => rfl
  | cons member rest ih => simp only [fieldLines, List.map_append, texts_place, ih]

/-- A class is the same at every level. -/
theorem texts_classLines (contract : Message) :
    (classLines generator level contract).map PlacedLine.text =
      (classLines generator other contract).map PlacedLine.text := by
  have assignments (level other : Nat) :
      (assignmentLines generator level contract.members).map PlacedLine.text =
        (assignmentLines generator other contract.members).map PlacedLine.text := by
    simp only [assignmentLines, List.map_flatMap, texts_place]
  have body : (classBody generator (level + 1) contract).map PlacedLine.text =
      (classBody generator (other + 1) contract).map PlacedLine.text := by
    rw [classBody, classBody]
    cases members : contract.members with
    | nil => rfl
    | cons member rest =>
      rw [members] at assignments
      simp only [List.map_append, texts_place, texts_braces,
        texts_fieldLines generator (level + 1) (other + 1),
        assignments (level + 1 + 1) (other + 1 + 1)]
  simp only [classLines, List.map_append, texts_place, texts_braces, body]

/-- The interface of a rule is the same at every level. -/
theorem texts_interfaceLines (name : String) (entity : Entity) (rule : InterfaceRule) :
    (interfaceLines generator level name entity rule).map PlacedLine.text =
      (interfaceLines generator other name entity rule).map PlacedLine.text := by
  rw [interfaceLines, interfaceLines]
  generalize entity.messages.filter _ = joining
  cases joining with
  | nil => rfl
  | cons message rest =>
    simp only [List.map_append, List.map_cons, texts_place, texts_braces, List.map_flatMap]

/-- The interfaces of an entity are the same at every level. -/
theorem texts_entityLines (entity : Entity) :
    (entityLines generator level entity).map PlacedLine.text =
      (entityLines generator other entity).map PlacedLine.text := by
  rw [entityLines, entityLines]
  cases entity.name with
  | none => rfl
  | some name =>
    by_cases nameless : name = "null"
    · simp only [if_pos nameless]
    · simp only [if_neg nameless, List.map_flatMap, texts_interfaceLines generator level other]

/-- Classes and interfaces are the same at every level. -/
theorem texts_coreLines (model : Model) :
    (coreLines generator model level).map PlacedLine.text =
      (coreLines generator model other).map PlacedLine.text := by
  simp only [coreLines, List.map_append, List.map_flatMap, texts_classLines generator level other,
    texts_entityLines generator level other]

/-- Lines inside a region are the same at every level when they are so without it. -/
theorem texts_regionLines (region : Option String) {body rest : List PlacedLine}
    (same : body.map PlacedLine.text = rest.map PlacedLine.text) :
    (regionLines region level body).map PlacedLine.text =
      (regionLines region other rest).map PlacedLine.text := by
  unfold regionLines
  cases region with
  | none => exact same
  | some name =>
    by_cases empty : name = ""
    · simp only [if_pos empty, same]
    · simp only [if_neg empty, List.map_append, texts_place, same, List.map_cons, List.map_nil]

/-- Lines inside a namespace are the same at every level when they are so without it. -/
theorem texts_namespaceLines (nameSpace : Option String) {body : Nat → List PlacedLine}
    (same : ∀ level other, (body level).map PlacedLine.text = (body other).map PlacedLine.text) :
    (namespaceLines nameSpace level body).map PlacedLine.text =
      (namespaceLines nameSpace other body).map PlacedLine.text := by
  unfold namespaceLines
  cases nameSpace with
  | none => exact same level other
  | some name =>
    by_cases empty : name = ""
    · simp only [if_pos empty, same level other]
    · simp only [if_neg empty, List.map_append, texts_place, texts_braces,
        same (level + 1) (other + 1)]

end Outline

namespace Generator

variable (generator : Generator) (model : Model)

/-- An outline has the same lines at every level. -/
theorem texts_outline (level other : Nat) :
    (generator.outline model level).map PlacedLine.text =
      (generator.outline model other).map PlacedLine.text :=
  Outline.texts_namespaceLines level other _ fun level other =>
    Outline.texts_regionLines level other _ (Outline.texts_coreLines generator level other model)

/-- Behind an empty unit a pass offers the same text from every level on. -/
theorem offeredText_of_empty_unit (writer : LineWriter) (noUnit : writer.unit = "")
    (level : Level) :
    generator.offeredText model { writer with level } = generator.offeredText model writer := by
  have sameCalls := Operation.trace_grounded level writer.level
    ((generator.steps model).flatMap Step.operations)
  simp only [offeredText, noUnit]
  rw [← SinkCall.writtenAll_grounded, calls, Step.trace, sameCalls, SinkCall.writtenAll_grounded]
  rfl

end Generator

end MessageContracts
