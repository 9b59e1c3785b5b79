import MessageContracts.Proofs.Outline

/-!
# The lengths of outlines

Sources of different lengths are different sources. Every line of an outline counts, so a region
with a name makes the text longer, and a longer body makes a longer text inside the same region and
the same namespace. Of all settings a class depends on the templates of classes alone.
-/

namespace MessageContracts

namespace Outline

section Lengths

variable (unit newline : String)

/-- A line in front makes a text longer by its own length. -/
theorem length_text_cons (line : PlacedLine) (lines : List PlacedLine) :
    (text unit newline (line :: lines)).length =
      (line.written unit newline).length + (text unit newline lines).length := by
  rw [text, List.map_cons, String.join_cons, String.length_append]
  rfl

/-- The lengths of two texts add up. -/
theorem length_text_append (lines later : List PlacedLine) :
    (text unit newline (lines ++ later)).length =
      (text unit newline lines).length + (text unit newline later).length := by
  rw [text_append, String.length_append]

/-- A region with a name makes a text longer. -/
theorem length_text_regionLines {name : String} (named : name ≠ "") (level : Nat)
    (body : List PlacedLine) :
    (text unit newline body).length <
      (text unit newline (regionLines (some name) level body)).length := by
  have closing : "#endregion".length ≤
      (PlacedLine.written unit newline ⟨level, "#endregion"⟩).length := by
    simp only [PlacedLine.written, String.length_append]
    omega
  have filled : "#endregion".length = 10 := rfl
  rw [regionLines, if_neg named, length_text_append, length_text_append, length_text_cons]
  omega

/-- A longer body makes a longer text inside the same region. -/
theorem length_text_regionLines_lt {body longer : List PlacedLine}
    (inside : (text unit newline body).length < (text unit newline longer).length)
    (region : Option String) (level : Nat) :
    (text unit newline (regionLines region level body)).length <
      (text unit newline (regionLines region level longer)).length := by
  cases region with
  | none => exact inside
  | some name =>
    rw [regionLines, regionLines]
    split
    · exact inside
    · simp only [length_text_append]
      omega

/-- A longer body makes a longer text inside every namespace, too. -/
theorem length_text_namespaceLines {body longer : Nat → List PlacedLine}
    (inside : ∀ level,
      (text unit newline (body level)).length < (text unit newline (longer level)).length)
    (nameSpace : Option String) (level : Nat) :
    (text unit newline (namespaceLines nameSpace level body)).length <
      (text unit newline (namespaceLines nameSpace level longer)).length := by
  cases nameSpace with
  | none => exact inside level
  | some name =>
    rw [namespaceLines, namespaceLines]
    split
    · exact inside level
    · have deeper := inside (level + 1)
      simp only [braces, length_text_append, length_text_cons]
      omega

end Lengths

/-- The fields of a class depend on the field declaration and the spelling alone. -/
theorem fieldLines_congr {generator other : Generator}
    (member : other.settings.member = generator.settings.member)
    (spelling : other.spelling = generator.spelling) (level position : Nat)
    (members : List Member) :
    fieldLines other level position members = fieldLines generator level position members := by
  induction members generalizing position with
  | nil => rfl
  | cons first rest ih => rw [fieldLines, fieldLines, ih, member, spelling]

/-- A class depends on the templates of classes and the spelling alone. -/
theorem classLines_congr {generator other : Generator}
    (header : other.settings.classHeader = generator.settings.classHeader)
    (member : other.settings.member = generator.settings.member)
    (constructor : other.settings.privateConstructor = generator.settings.privateConstructor)
    (spelling : other.spelling = generator.spelling) (level : Nat) :
    classLines other level = classLines generator level := by
  funext contract
  rw [classLines, classLines, classHeading, classHeading, classBody, classBody, header, constructor]
  cases contract.members with
  | nil => rfl
  | cons first rest =>
    simp only [fieldLines_congr member spelling, constructorLines, assignmentLines, spelling]

end Outline

end MessageContracts
