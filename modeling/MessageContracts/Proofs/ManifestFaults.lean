import MessageContracts.Manifest

/-!
# The first fault of a manifest

A manifest is accepted if its indent is blank and every rule has a tag and no empty tag. What is
said of another one is about its first fault: the indent comes before the rules, the rules come in
their order, and a rule without tags has no empty one. The complaints are written down here from
the manifest alone, without the check.
-/

namespace MessageContracts

/-- Every character of the indent is a space or a tab. -/
def OutputLayout.IsBlank (layout : OutputLayout) : Prop :=
  ∀ c ∈ layout.indent.toList, c = ' ' ∨ c = '\t'

/-- The rule has a tag, and none of its tags is empty. -/
structure InterfaceRule.IsTagged (rule : InterfaceRule) : Prop where
  /-- There is a tag. -/
  tagged : rule.tags ≠ []
  /-- No tag is empty. -/
  filled : "" ∉ rule.tags

/-- What is said of a rule that is not tagged. -/
inductive InterfaceRule.Complaint (rule : InterfaceRule) : String → Prop where
  /-- It has no tags at all. -/
  | noTags (bare : rule.tags = []) : Complaint rule
      ("Interface '" ++ rule.name.source ++ "' has no tags and would never be emitted")
  /-- It has tags, and one of them is empty. -/
  | emptyTag (tagged : rule.tags ≠ []) (empty : "" ∈ rule.tags) : Complaint rule
      ("Interface '" ++ rule.name.source ++ "' has an empty tag")

/-- What is said of a manifest that is not accepted. -/
inductive Manifest.Complaint (manifest : Manifest) : String → Prop where
  /-- The indent is not blank. -/
  | indent (strange : ¬ manifest.layout.IsBlank) : Complaint manifest
      ("Output indent must be spaces or tabs, got " ++ Text.quoted manifest.layout.indent)
  /-- The indent is blank, and something is said of a rule but of none before it. -/
  | rule {earlier later : List InterfaceRule} {rule : InterfaceRule} {message : String}
      (blank : manifest.layout.IsBlank)
      (split : manifest.settings.interfaces = earlier ++ rule :: later)
      (fine : ∀ other ∈ earlier, other.IsTagged) (said : rule.Complaint message) :
      Complaint manifest message

/-- A layout is accepted when its indent is blank. -/
theorem OutputLayout.fault?_eq_none_iff (layout : OutputLayout) :
    layout.fault? = none ↔ layout.IsBlank := by
  have blank : (layout.indent.toList.all fun c => c == ' ' || c == '\t') = true ↔
      layout.IsBlank := by
    simp only [List.all_eq_true, Bool.or_eq_true, beq_iff_eq, IsBlank]
  rw [fault?, ← blank]
  split
  next accepted => exact iff_of_true rfl accepted
  next refused => exact iff_of_false nofun refused

/-- The only fault of a layout is its indent. -/
theorem OutputLayout.eq_indent_of_fault? {layout : OutputLayout} {fault : ManifestFault}
    (found : layout.fault? = some fault) : fault = .indent layout.indent := by
  rw [fault?] at found
  split at found
  · cases found
  · cases found
    rfl

namespace InterfaceRule

variable (rule : InterfaceRule)

/-- A rule has no tags, or one of its tags is empty, or it has no fault. -/
theorem fault?_cases :
    rule.tags = [] ∧ rule.fault? = some (.noTags rule.name.source) ∨
      (rule.tags ≠ [] ∧ "" ∈ rule.tags) ∧ rule.fault? = some (.emptyTag rule.name.source) ∨
      rule.IsTagged ∧ rule.fault? = none := by
  by_cases bare : rule.tags = []
  · exact .inl ⟨bare, if_pos (List.isEmpty_iff.mpr bare)⟩
  · have tagged : ¬ rule.tags.isEmpty = true := mt List.isEmpty_iff.mp bare
    rw [fault?, if_neg tagged]
    by_cases empty : "" ∈ rule.tags
    · exact .inr (.inl ⟨⟨bare, empty⟩, if_pos (List.contains_iff_mem.mpr empty)⟩)
    · exact .inr (.inr ⟨⟨bare, empty⟩, if_neg (mt List.contains_iff_mem.mp empty)⟩)

/-- A rule is accepted when it is tagged. -/
theorem fault?_eq_none_iff : rule.fault? = none ↔ rule.IsTagged := by
  obtain ⟨bare, found⟩ | ⟨⟨-, empty⟩, found⟩ | ⟨tagged, found⟩ := rule.fault?_cases
  · rw [found]
    exact iff_of_false nofun fun fine => fine.tagged bare
  · rw [found]
    exact iff_of_false nofun fun fine => fine.filled empty
  · exact iff_of_true found tagged

/-- A rule is refused for having no tags when it has none. -/
theorem fault?_eq_noTags_iff :
    rule.fault? = some (.noTags rule.name.source) ↔ rule.tags = [] := by
  obtain ⟨bare, found⟩ | ⟨⟨tagged, -⟩, found⟩ | ⟨fine, found⟩ := rule.fault?_cases
  · exact iff_of_true found bare
  · rw [found]
    exact iff_of_false nofun tagged
  · rw [found]
    exact iff_of_false nofun fine.tagged

/-- The message of a rule's fault is the complaint about the rule. -/
theorem message_fault?_iff (message : String) :
    rule.fault?.map ManifestFault.message = some message ↔ rule.Complaint message := by
  obtain ⟨bare, found⟩ | ⟨⟨tagged, empty⟩, found⟩ | ⟨fine, found⟩ := rule.fault?_cases
  · rw [found, Option.map_some, Option.some.injEq]
    constructor
    · rintro rfl
      exact .noTags bare
    · rintro (_ | ⟨tagged, -⟩)
      · rfl
      · exact absurd bare tagged
  · rw [found, Option.map_some, Option.some.injEq]
    constructor
    · rintro rfl
      exact .emptyTag tagged empty
    · rintro (bare | _)
      · exact absurd bare tagged
      · rfl
  · rw [found]
    refine iff_of_false nofun ?_
    rintro (bare | ⟨-, empty⟩)
    · exact fine.tagged bare
    · exact fine.filled empty

end InterfaceRule

namespace Manifest

variable (manifest : Manifest)

/-- The layout is looked at before the rules. -/
theorem fault?_eq_or : manifest.fault? =
    manifest.layout.fault?.or (manifest.settings.interfaces.findSome? (·.fault?)) :=
  Option.orElse_eq_or

/-- A manifest is accepted when its indent is blank and every rule is tagged. -/
theorem fault?_eq_none_iff : manifest.fault? = none ↔
    manifest.layout.IsBlank ∧ ∀ rule ∈ manifest.settings.interfaces, rule.IsTagged := by
  rw [fault?_eq_or, Option.or_eq_none_iff, manifest.layout.fault?_eq_none_iff,
    List.findSome?_eq_none_iff]
  simp only [InterfaceRule.fault?_eq_none_iff]

/-- The message of a manifest's fault is the complaint about the manifest. -/
theorem message_fault?_iff (message : String) :
    manifest.fault?.map ManifestFault.message = some message ↔ manifest.Complaint message := by
  have blank_iff := manifest.layout.fault?_eq_none_iff
  rw [fault?_eq_or]
  cases found : manifest.layout.fault? with
  | some fault =>
    have strange : ¬ manifest.layout.IsBlank := by
      rw [← blank_iff, found]
      nofun
    obtain rfl := OutputLayout.eq_indent_of_fault? found
    rw [Option.some_or, Option.map_some, Option.some.injEq]
    constructor
    · rintro rfl
      exact .indent strange
    · rintro (_ | ⟨blank, -, -, -⟩)
      · rfl
      · exact absurd blank strange
  | none =>
    have blank := blank_iff.mp found
    rw [Option.none_or, Option.map_eq_some_iff]
    constructor
    · rintro ⟨fault, first, rfl⟩
      obtain ⟨earlier, rule, later, split, faulty, fine⟩ := List.findSome?_eq_some_iff.mp first
      refine .rule blank split (fun other listed => ?_) ((rule.message_fault?_iff _).mp ?_)
      · exact other.fault?_eq_none_iff.mp (fine other listed)
      · rw [faulty, Option.map_some]
    · rintro (strange | @⟨earlier, later, rule, _, -, split, fine, said⟩)
      · exact absurd blank strange
      · obtain ⟨fault, faulty, wording⟩ :=
          Option.map_eq_some_iff.mp ((rule.message_fault?_iff message).mpr said)
        refine ⟨fault, List.findSome?_eq_some_iff.mpr ?_, wording⟩
        refine ⟨earlier, rule, later, split, faulty, fun other listed => ?_⟩
        exact other.fault?_eq_none_iff.mpr (fine other listed)

end Manifest

end MessageContracts
