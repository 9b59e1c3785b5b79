import MessageContracts.Emission
import MessageContracts.Proofs.JoinedWords

/-!
# The two spellings of a member

Neither the field nor the parameter of a member is ever spelt as a reserved word: a field begins
with a capital, and a parameter that would be reserved is escaped. The two spellings differ as soon
as the first character of the field has a small letter. Where it has none, the constructor assigns
the field to itself.
-/

namespace MessageContracts

namespace Text

/-- The lower-case mapping of a character is not empty. -/
theorem exists_lowerCase_eq_cons (c : Char) : ∃ d rest, lowerCase c = d :: rest := by
  rcases mapCase_cases lowerRuns lowerExpansions c with
    ⟨codes, listed, expanded⟩ | ⟨run, -, -, moved⟩ | unlisted
  · obtain ⟨-, rfl⟩ := Prod.mk.inj (List.mem_singleton.mp listed)
    exact ⟨_, _, expanded⟩
  · exact ⟨_, [], moved⟩
  · exact ⟨c, [], mapCase_of_unlisted unlisted⟩

/-- Only the first character of a text is made small. -/
theorem toList_lowerFirst {text : String} {c : Char} {rest : List Char}
    (chars : text.toList = c :: rest) : (lowerFirst text).toList = lowerCase c ++ rest := by
  rw [lowerFirst, chars]
  exact String.toList_ofList

end Text

namespace Spelling

open Text

/-- Every reserved word begins with a small letter. -/
theorem reservedWords_head_isLower :
    ∀ word ∈ reservedWords, word.toList.head?.any Char.isLower = true := by
  decide +kernel

/-- A text that begins with another character is not reserved. -/
theorem not_mem_reservedWords {name : String} {c : Char} {rest : List Char}
    (chars : name.toList = c :: rest) (large : c.isLower = false) : name ∉ reservedWords := by
  intro reserved
  have small := reservedWords_head_isLower name reserved
  rw [chars] at small
  exact Bool.false_ne_true (large.symm.trans small)

/-- The empty text is not reserved. -/
theorem empty_not_mem_reservedWords : "" ∉ reservedWords := by
  intro reserved
  cases reservedWords_head_isLower "" reserved

/-- A name that is marked is not reserved. -/
theorem marked_not_mem_reservedWords (name : String) : "@" ++ name ∉ reservedWords :=
  not_mem_reservedWords (String.toList_append ..) rfl

/-- A reserved name is marked. -/
theorem escapeReserved_of_mem {name : String} (reserved : name ∈ reservedWords) :
    escapeReserved name = "@" ++ name := by
  rw [escapeReserved, if_pos (List.contains_iff_mem.mpr reserved)]

/-- Any other name stays as it is. -/
theorem escapeReserved_of_not_mem {name : String} (free : name ∉ reservedWords) :
    escapeReserved name = name := by
  rw [escapeReserved, if_neg (mt List.contains_iff_mem.mp free)]

/-- An escaped name is not reserved. -/
theorem escapeReserved_not_mem (name : String) : escapeReserved name ∉ reservedWords := by
  by_cases reserved : name ∈ reservedWords
  · rw [escapeReserved_of_mem reserved]
    exact marked_not_mem_reservedWords name
  · rw [escapeReserved_of_not_mem reserved]
    exact reserved

/-- A field of separators alone is empty, and every other one begins with a capital. -/
theorem pascalCase_cases (identifier : String) :
    ((∀ c ∈ identifier.toList, isSeparator c = true) ∧ pascalCase identifier = "") ∨
    ((∃ c ∈ identifier.toList, isSeparator c = false) ∧
      ∃ d rest, (pascalCase identifier).toList = d :: rest ∧ IsCapital d) := by
  rw [toList_pascalCase]
  refine (joinWords_cases identifier.toList).imp_left fun ⟨all, nothing⟩ => ⟨all, ?_⟩
  rw [pascalCase, nothing]

/-- A field is not spelt as a reserved word. -/
theorem pascalCase_not_mem_reservedWords (identifier : String) :
    pascalCase identifier ∉ reservedWords := by
  rcases pascalCase_cases identifier with ⟨-, empty⟩ | ⟨-, d, rest, chars, capital⟩
  · rw [empty]
    exact empty_not_mem_reservedWords
  · exact not_mem_reservedWords chars (not_isLower_of_isCapital capital)

/-- A name that is not reserved is the parameter to itself when its first character stays small. -/
theorem eq_escapeReserved_lowerFirst_iff {name : String} {c : Char} {rest : List Char}
    (chars : name.toList = c :: rest) (free : name ∉ reservedWords) :
    name = escapeReserved (lowerFirst name) ↔ lowerCase c = [c] := by
  have small := toList_lowerFirst chars
  constructor
  · intro same
    by_cases reserved : lowerFirst name ∈ reservedWords
    · -- The mark makes the name longer, and small letters do not make it shorter.
      obtain ⟨d, others, mapped⟩ := exists_lowerCase_eq_cons c
      have lengths := congrArg (fun text => text.toList.length) same
      simp only [escapeReserved_of_mem reserved, String.toList_append, small, chars, mapped,
        List.length_append, List.length_cons] at lengths
      have mark : "@".toList.length = 1 := rfl
      omega
    · rw [escapeReserved_of_not_mem reserved] at same
      rw [← same, chars] at small
      have split : [c] ++ rest = lowerCase c ++ rest := small
      exact (List.append_cancel_right split).symm
  · intro stays
    have unchanged : lowerFirst name = name := by
      apply String.toList_inj.mp
      rw [small, stays, chars]
      rfl
    rw [unchanged, escapeReserved_of_not_mem free]

/-- The field and the parameter of an identifier are spelt alike when there is nothing to spell, or
nothing to make small. -/
theorem pascalCase_eq_parameterName_iff (identifier : String) :
    pascalCase identifier = parameterName identifier ↔
      (∀ c ∈ identifier.toList, isSeparator c = true) ∨
      ∃ c rest, (pascalCase identifier).toList = c :: rest ∧ lowerCase c = [c] := by
  rw [parameterName]
  rcases pascalCase_cases identifier with ⟨all, empty⟩ | ⟨⟨c, member, part⟩, d, rest, chars, -⟩
  · refine iff_of_true ?_ (.inl all)
    have small : lowerFirst "" = "" := rfl
    rw [empty, small, escapeReserved_of_not_mem empty_not_mem_reservedWords]
  · rw [eq_escapeReserved_lowerFirst_iff chars (pascalCase_not_mem_reservedWords identifier)]
    constructor
    · intro stays
      exact .inr ⟨d, rest, chars, stays⟩
    · rintro (all | ⟨e, others, same, stays⟩)
      · rw [all c member] at part
        cases part
      · obtain ⟨rfl, -⟩ := List.cons.inj (chars.symm.trans same)
        exact stays

/-- A parameter is not spelt as a reserved word. -/
theorem parameterName_not_mem_reservedWords (identifier : String) :
    parameterName identifier ∉ reservedWords := by
  rw [parameterName]
  exact escapeReserved_not_mem _

/-- By the conventions of C# fields are in Pascal case. -/
theorem csharp_member : csharp.member = pascalCase := by
  rw [csharp]

/-- By the conventions of C# parameters are in camel case. -/
theorem csharp_parameter : csharp.parameter = parameterName := by
  rw [csharp]

/-- The constructor assigns the parameter of a member to its field. -/
theorem assignmentSteps_ofSettings (settings : Settings) (member : Member) :
    (Generator.ofSettings settings).assignmentSteps member =
      [.lines (pascalCase member.name ++ " = " ++ parameterName member.name ++ ";")] := by
  rw [← Generator.ofSettings_member settings, ← Generator.ofSettings_parameter settings]
  rfl

/-- No member is spelt as a reserved word, neither as a field nor as a parameter. Its two spellings
agree, so that the constructor assigns the field to itself, exactly when its identifier consists of
separators only or the first character of the field is its own lower-case mapping. -/
theorem csharp_spells_apart (settings : Settings) (type identifier : String) :
    let field := csharp.member identifier
    let parameter := csharp.parameter identifier
    let smallAlready := (∀ c ∈ identifier.toList, isSeparator c = true) ∨
      ∃ c rest, (pascalCase identifier).toList = c :: rest ∧ lowerCase c = [c]
    field ∉ reservedWords ∧ parameter ∉ reservedWords ∧
      (field = parameter ↔ smallAlready) ∧
      ((Generator.ofSettings settings).assignmentSteps ⟨type, identifier⟩ =
        [.lines (field ++ " = " ++ field ++ ";")] ↔ smallAlready) := by
  rw [csharp_member, csharp_parameter, assignmentSteps_ofSettings]
  have alike := pascalCase_eq_parameterName_iff identifier
  refine ⟨pascalCase_not_mem_reservedWords identifier,
    parameterName_not_mem_reservedWords identifier, alike, ?_⟩
  rw [← alike, List.singleton_inj, Step.lines.injEq, String.append_left_inj,
    String.append_right_inj]
  exact eq_comm

end Spelling

end MessageContracts
