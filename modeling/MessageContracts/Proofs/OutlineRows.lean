import MessageContracts.Proofs.Delimited
import MessageContracts.Proofs.Outline

/-!
# The rows of an outline

A row is a line of an outline behind its indent, as it stands in the source. No line of an outline
holds a line feed, whatever settings and model are, so that a source whose lines end in line feeds
has one outline's rows at most.
-/

namespace MessageContracts

open Text

/-- A line behind its indent. No text needs no indent. -/
def PlacedLine.row (unit : String) (line : PlacedLine) : String :=
  (if line.text = "" then "" else indentText unit line.level) ++ line.text

/-- A line laid out is its row with a newline. -/
theorem PlacedLine.written_eq_row (unit newline : String) (line : PlacedLine) :
    line.written unit newline = line.row unit ++ newline := rfl

namespace Text

/-- A piece between line feeds holds none. -/
theorem feedless_of_mem_splitLines {text line : List Char} (piece : line ∈ splitLines text) :
    '\n' ∉ line := by
  induction text generalizing line with
  | nil =>
    rw [List.mem_singleton.mp piece]
    exact List.not_mem_nil
  | cons c rest ih =>
    rw [splitLines] at piece
    by_cases feed : c = '\n'
    · rw [if_pos feed] at piece
      rcases List.mem_cons.mp piece with rfl | later
      · exact List.not_mem_nil
      · exact ih later
    · rw [if_neg feed] at piece
      cases pieces : splitLines rest with
      | nil => exact absurd pieces (splitLines_ne_nil rest)
      | cons first others =>
        rw [pieces] at piece ih
        rcases List.mem_cons.mp piece with rfl | later
        · rw [List.mem_cons]
          exact not_or_intro (Ne.symm feed) (ih List.mem_cons_self)
        · exact ih (List.mem_cons_of_mem first later)

/-- A physical line holds no line feed. -/
theorem feedless_of_mem_physicalLines {text line : String} (member : line ∈ physicalLines text) :
    '\n' ∉ line.toList := by
  rw [← lines_eq_physicalLines] at member
  obtain ⟨piece, inside, rfl⟩ := List.mem_map.mp member
  rw [String.toList_ofList, dropReturn]
  intro feed
  apply feedless_of_mem_splitLines inside
  split at feed
  · exact List.dropLast_subset _ feed
  · exact feed

end Text

namespace Outline

/-- Lines without line feeds. -/
def Feedless (lines : List PlacedLine) : Prop := ∀ line ∈ lines, '\n' ∉ line.text.toList

variable {level : Nat} {lines later : List PlacedLine}

/-- Lines one after the other. -/
theorem Feedless.append (head : Feedless lines) (tail : Feedless later) :
    Feedless (lines ++ later) := List.forall_mem_append.mpr ⟨head, tail⟩

/-- One line. -/
theorem Feedless.cons {line : PlacedLine} (head : '\n' ∉ line.text.toList)
    (tail : Feedless lines) : Feedless (line :: lines) := List.forall_mem_cons.mpr ⟨head, tail⟩

/-- No lines. -/
theorem Feedless.nil : Feedless [] := List.forall_mem_nil _

/-- The lines of every item of a list. -/
theorem Feedless.flatMap {α : Type} {items : List α} {linesOf : α → List PlacedLine}
    (each : ∀ item ∈ items, Feedless (linesOf item)) : Feedless (items.flatMap linesOf) := by
  intro line inside
  obtain ⟨item, listed, inside⟩ := List.mem_flatMap.mp inside
  exact each item listed line inside

/-- Placed lines hold what the lines hold. -/
theorem Feedless.place (level : Nat) {lines : List String}
    (each : ∀ line ∈ lines, '\n' ∉ line.toList) : Feedless (place level lines) :=
  List.forall_mem_map.mpr each

/-- The physical lines of a text. -/
theorem Feedless.text (level : Nat) (content : String) :
    Feedless (Outline.place level (physicalLines content)) :=
  .place level fun _ => feedless_of_mem_physicalLines

/-- Lines between braces. -/
theorem Feedless.braces (level : Nat) (inside : Feedless lines) : Feedless (braces level lines) :=
  have opening : '\n' ∉ "\x7b".toList := by decide
  have closing : '\n' ∉ "\x7d".toList := by decide
  .append (.cons opening inside) (.cons closing .nil)

/-- A line that goes on with others holds no line feed when none of them does. -/
theorem feedless_continued {lines others : List String} (each : ∀ line ∈ lines, '\n' ∉ line.toList)
    (eachOther : ∀ line ∈ others, '\n' ∉ line.toList) :
    ∀ line ∈ continued lines others, '\n' ∉ line.toList := by
  induction lines with
  | nil => exact eachOther
  | cons first rest ih =>
    obtain ⟨here, later⟩ := List.forall_mem_cons.mp each
    cases rest with
    | nil =>
      cases others with
      | nil => exact each
      | cons next others =>
        obtain ⟨there, beyond⟩ := List.forall_mem_cons.mp eachOther
        refine List.forall_mem_cons.mpr ⟨?_, beyond⟩
        rw [String.toList_append, List.mem_append]
        exact not_or_intro here there
    | cons second rest => exact List.forall_mem_cons.mpr ⟨here, ih later⟩

section Parts

variable (generator : Generator)

/-- The field declarations hold no line feeds. -/
theorem feedless_fieldLines (level position : Nat) (members : List Member) :
    Feedless (fieldLines generator level position members) := by
  induction members generalizing position with
  | nil => exact .nil
  | cons member rest ih => exact (Feedless.text level _).append (ih (position + 1))

/-- A class holds no line feeds. -/
theorem feedless_classLines (level : Nat) (contract : Message) :
    Feedless (classLines generator level contract) := by
  have heading : ∀ line ∈ classHeading generator contract, '\n' ∉ line.toList := by
    rw [classHeading]
    cases contract.modifiers with
    | nil => exact fun _ => feedless_of_mem_physicalLines
    | cons modifier rest =>
      exact feedless_continued (fun _ => feedless_of_mem_physicalLines)
        fun _ => feedless_of_mem_physicalLines
  have constructorHeading : ∀ line ∈ constructorLines generator contract, '\n' ∉ line.toList :=
    feedless_continued (feedless_continued (fun _ => feedless_of_mem_physicalLines)
      fun _ => feedless_of_mem_physicalLines) fun _ => feedless_of_mem_physicalLines
  have body : Feedless (classBody generator (level + 1) contract) := by
    rw [classBody]
    cases contract.members with
    | nil => exact .nil
    | cons member rest =>
      exact (((feedless_fieldLines generator _ 1 _).append (.text _ _)).append
        (.place _ constructorHeading)).append (.braces _ (.flatMap fun _ _ => .text _ _))
  exact (Feedless.place level heading).append (.braces level body)

/-- The interface of a rule holds no line feeds. -/
theorem feedless_interfaceLines (level : Nat) (name : String) (entity : Entity)
    (rule : InterfaceRule) : Feedless (interfaceLines generator level name entity rule) := by
  have blank : '\n' ∉ "".toList := by decide
  rw [interfaceLines]
  split
  · exact .nil
  · exact (Feedless.cons blank (.text level _)).append
      (.braces level (.flatMap fun _ _ => .text _ _))

/-- Classes and interfaces hold no line feeds. -/
theorem feedless_coreLines (model : Model) (level : Nat) :
    Feedless (coreLines generator model level) := by
  refine .append (.flatMap fun contract _ => feedless_classLines generator level contract)
    (.flatMap fun entity _ => ?_)
  rw [entityLines]
  cases entity.name with
  | none => exact .nil
  | some name =>
    dsimp only
    split
    · exact .nil
    · exact .flatMap fun rule _ => feedless_interfaceLines generator level name entity rule

/-- A region around lines without line feeds holds none. -/
theorem feedless_regionLines (region : Option String) (level : Nat) (inside : Feedless lines) :
    Feedless (regionLines region level lines) := by
  have closing : '\n' ∉ "#endregion".toList := by decide
  unfold regionLines
  cases region with
  | none => exact inside
  | some name =>
    dsimp only
    split
    · exact inside
    · exact ((Feedless.text level _).append inside).append (.cons closing .nil)

/-- A namespace around lines without line feeds holds none. -/
theorem feedless_namespaceLines (nameSpace : Option String) (level : Nat)
    {body : Nat → List PlacedLine} (inside : ∀ inner, Feedless (body inner)) :
    Feedless (namespaceLines nameSpace level body) := by
  unfold namespaceLines
  cases nameSpace with
  | none => exact inside level
  | some name =>
    dsimp only
    split
    · exact inside level
    · exact (Feedless.text level _).append (.braces level (inside (level + 1)))

/-- An outline holds no line feeds. -/
theorem feedless_outline (model : Model) (level : Nat) :
    Feedless (generator.outline model level) :=
  feedless_namespaceLines _ level fun inner =>
    feedless_regionLines _ inner (feedless_coreLines generator model inner)

end Parts

/-- An indent of units without line feeds holds none. -/
theorem feedless_row {unit : String} (plain : '\n' ∉ unit.toList) (inside : Feedless lines) :
    ∀ row ∈ lines.map (PlacedLine.row unit), '\n' ∉ row.toList := by
  intro row member
  obtain ⟨line, listed, rfl⟩ := List.mem_map.mp member
  have indent : '\n' ∉ (indentText unit line.level).toList := by
    rw [indentText, String.toList_join]
    intro feed
    obtain ⟨piece, copied, feed⟩ := List.mem_flatMap.mp feed
    rw [List.eq_of_mem_replicate copied] at feed
    exact plain feed
  rw [PlacedLine.row, String.toList_append, List.mem_append]
  refine not_or_intro ?_ (inside line listed)
  split
  · exact List.not_mem_nil
  · exact indent

/-- Outlines that are laid out as the same text with line feeds have the same rows. -/
theorem rows_eq_of_text_eq {unit : String} (plain : '\n' ∉ unit.toList)
    (inside : Feedless lines) (alsoInside : Feedless later)
    (same : text unit "\n" lines = text unit "\n" later) :
    lines.map (PlacedLine.row unit) = later.map (PlacedLine.row unit) := by
  have written (lines : List PlacedLine) : text unit "\n" lines =
      String.join ((lines.map (PlacedLine.row unit)).map (· ++ "\n")) := by
    rw [text, List.map_map]
    exact congrArg String.join
      (List.map_congr_left fun line _ => line.written_eq_row unit "\n")
  rw [written, written] at same
  exact join_newline_inj (feedless_row plain inside) (feedless_row plain alsoInside) same

end Outline

end MessageContracts
