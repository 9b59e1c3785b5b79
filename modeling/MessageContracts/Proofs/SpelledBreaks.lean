import MessageContracts.Proofs.CasedLetters
import MessageContracts.Proofs.LineBreaks

/-!
# Line breaks in spelt identifiers

A change of case keeps away from control characters: it leaves them as they are and maps nothing to
them. Both spellings of an identifier therefore have their line breaks where the identifier has
them, and putting carriage returns in front of line feeds may be done before or after spelling.
-/

namespace MessageContracts

namespace Text

/-- Tables in which neither a character nor a mapping is one of the 32 control characters that
come first. -/
def clearOfControls (runs : List CaseRun) (expansions : List (Nat × List Nat)) : Bool :=
  runs.all (fun run => decide (32 ≤ run.first ∧ 32 ≤ run.first + run.shift))
    && expansions.all fun (code, codes) => decide (32 ≤ code) && codes.all fun code => 32 ≤ code

/-- The tables of the upper-case mapping are clear of control characters. -/
theorem upper_clearOfControls : clearOfControls upperRuns upperExpansions = true := by
  decide +kernel

/-- The tables of the lower-case mapping are clear of control characters. -/
theorem lower_clearOfControls : clearOfControls lowerRuns lowerExpansions = true := by
  decide +kernel

/-- A code point that is no control character gives no line break. -/
theorem ofNat_ne_break {n : Nat} (high : 32 ≤ n) : Char.ofNat n ≠ '\n' ∧ Char.ofNat n ≠ '\r' := by
  have code := toNat_ofNat_eq_or n
  have feed : '\n'.toNat = 10 := rfl
  have ending : '\r'.toNat = 13 := rfl
  refine ⟨fun same => ?_, fun same => ?_⟩
  · rw [same] at code
    omega
  · rw [same] at code
    omega

variable {runs : List CaseRun} {expansions : List (Nat × List Nat)}

/-- A change of case leaves control characters as they are. -/
theorem mapCase_of_control (clear : clearOfControls runs expansions = true) {c : Char}
    (control : c.toNat < 32) : mapCase runs expansions c = [c] := by
  rw [clearOfControls, Bool.and_eq_true, List.all_eq_true, List.all_eq_true] at clear
  obtain ⟨clearRuns, clearExpansions⟩ := clear
  rcases mapCase_cases runs expansions c with
    ⟨codes, listed, -⟩ | ⟨run, listed, covered, -⟩ | unlisted
  · have high := clearExpansions _ listed
    rw [Bool.and_eq_true, decide_eq_true_iff] at high
    exact absurd high.1 (Nat.not_le_of_lt control)
  · have high := of_decide_eq_true (clearRuns run listed)
    obtain ⟨above, -, -⟩ := CaseRun.covers_iff.mp covered
    omega
  · exact mapCase_of_unlisted unlisted

/-- A change of case makes no line break. -/
theorem mapCase_ne_break (clear : clearOfControls runs expansions = true) {c : Char}
    (text : 32 ≤ c.toNat) : ∀ d ∈ mapCase runs expansions c, d ≠ '\n' ∧ d ≠ '\r' := by
  rw [clearOfControls, Bool.and_eq_true, List.all_eq_true, List.all_eq_true] at clear
  obtain ⟨clearRuns, clearExpansions⟩ := clear
  intro d mapped
  rcases mapCase_cases runs expansions c with
    ⟨codes, listed, expanded⟩ | ⟨run, listed, covered, moved⟩ | unlisted
  · rw [expanded] at mapped
    have high := clearExpansions _ listed
    rw [Bool.and_eq_true, List.all_eq_true] at high
    obtain ⟨code, member, rfl⟩ := List.mem_map.mp mapped
    exact ofNat_ne_break (of_decide_eq_true (high.2 code member))
  · rw [moved] at mapped
    have high := of_decide_eq_true (clearRuns run listed)
    obtain ⟨above, -, -⟩ := CaseRun.covers_iff.mp covered
    rw [List.mem_singleton.mp mapped]
    exact ofNat_ne_break (by omega)
  · rw [mapCase_of_unlisted unlisted] at mapped
    rw [List.mem_singleton.mp mapped, ← Char.ofNat_toNat c]
    exact ofNat_ne_break text

/-- What a change of case does to line breaks: nothing, and it makes none. -/
structure KeepsBreaks (map : Char → List Char) : Prop where
  /-- A line feed stays. -/
  feed : map '\n' = ['\n']
  /-- A carriage return stays. -/
  ending : map '\r' = ['\r']
  /-- No other character becomes a line break. -/
  other : ∀ c, c ≠ '\n' → c ≠ '\r' → '\n' ∉ map c ∧ '\r' ∉ map c

/-- Mappings by tables that are clear of control characters keep line breaks. -/
theorem keepsBreaks_mapCase (clear : clearOfControls runs expansions = true) :
    KeepsBreaks (mapCase runs expansions) where
  feed := mapCase_of_control clear (by decide)
  ending := mapCase_of_control clear (by decide)
  other c feed ending := by
    rcases Nat.lt_or_ge c.toNat 32 with control | text
    · rw [mapCase_of_control clear control]
      exact ⟨List.mem_singleton.not.mpr (Ne.symm feed), List.mem_singleton.not.mpr (Ne.symm ending)⟩
    · exact ⟨fun member => (mapCase_ne_break clear text _ member).1 rfl,
        fun member => (mapCase_ne_break clear text _ member).2 rfl⟩

/-- The upper-case mapping keeps line breaks. -/
theorem keepsBreaks_upperCase : KeepsBreaks upperCase := keepsBreaks_mapCase upper_clearOfControls

/-- The lower-case mapping keeps line breaks. -/
theorem keepsBreaks_lowerCase : KeepsBreaks lowerCase := keepsBreaks_mapCase lower_clearOfControls

/-- What a character is mapped to holds no line break but the character itself. -/
theorem KeepsBreaks.not_mem {map : Char → List Char} (keeps : KeepsBreaks map) {b c : Char}
    (isBreak : b = '\n' ∨ b = '\r') (different : b ≠ c) : b ∉ map c := by
  by_cases feed : c = '\n'
  · subst feed
    rw [keeps.feed]
    exact List.mem_singleton.not.mpr different
  · by_cases ending : c = '\r'
    · subst ending
      rw [keeps.ending]
      exact List.mem_singleton.not.mpr different
    · rcases isBreak with rfl | rfl
      · exact (keeps.other c feed ending).1
      · exact (keeps.other c feed ending).2

/-- Mapping a first character and putting in carriage returns may change places. -/
theorem KeepsBreaks.insertReturns_append {map : Char → List Char} (keeps : KeepsBreaks map)
    {c : Char} (other : c ≠ '\n') (rest : List Char) :
    insertReturns (map c ++ rest) = map c ++ insertReturns rest := by
  rw [Text.insertReturns_append,
    insertReturns_of_not_mem (keeps.not_mem (.inl rfl) (Ne.symm other))]

/-- A text with a small first letter has its carriage returns where the text has them. -/
theorem lowerFirst_withReturns (text : String) :
    lowerFirst (withReturns text) = withReturns (lowerFirst text) := by
  unfold lowerFirst
  rw [toList_withReturns]
  cases chars : text.toList with
  | nil => rfl
  | cons c rest =>
    by_cases feed : c = '\n'
    · subst feed
      rw [insertReturns_feed]
      simp only [keepsBreaks_lowerCase.feed, keepsBreaks_lowerCase.ending, withReturns,
        String.toList_ofList]
      rfl
    · rw [insertReturns_cons feed]
      simp only [withReturns, String.toList_ofList, keepsBreaks_lowerCase.insertReturns_append feed]

/-- A text without a line break has none with a small first letter either. -/
theorem not_mem_lowerFirst {b : Char} (isBreak : b = '\n' ∨ b = '\r') {text : String}
    (free : b ∉ text.toList) : b ∉ (lowerFirst text).toList := by
  unfold lowerFirst
  cases chars : text.toList with
  | nil => exact List.not_mem_nil
  | cons c rest =>
    rw [chars, List.mem_cons, not_or] at free
    rw [String.toList_ofList, List.mem_append]
    exact not_or_intro (keepsBreaks_lowerCase.not_mem isBreak free.1) free.2

end Text

namespace Spelling

open Text

/-- A line break is part of a word. -/
theorem joinWords_break (atStart : Bool) {c : Char} (isBreak : c = '\n' ∨ c = '\r')
    (rest : List Char) : joinWords atStart (c :: rest) = c :: joinWords false rest := by
  rcases isBreak with rfl | rfl
  · have part : ¬isSeparator '\n' = true := by decide
    rw [joinWords, if_neg part, keepsBreaks_upperCase.feed]
    cases atStart <;> rfl
  · have part : ¬isSeparator '\r' = true := by decide
    rw [joinWords, if_neg part, keepsBreaks_upperCase.ending]
    cases atStart <;> rfl

/-- Joined words have their carriage returns where the identifier has them. -/
theorem joinWords_insertReturns (atStart : Bool) (text : List Char) :
    joinWords atStart (insertReturns text) = insertReturns (joinWords atStart text) := by
  induction text generalizing atStart with
  | nil => rfl
  | cons c rest ih =>
    by_cases feed : c = '\n'
    · subst feed
      rw [insertReturns_feed, joinWords_break atStart (.inr rfl), joinWords_break false (.inl rfl),
        joinWords_break atStart (.inl rfl), ih false, insertReturns_feed]
    · rw [insertReturns_cons feed, joinWords, joinWords]
      by_cases separator : isSeparator c = true
      · rw [if_pos separator, if_pos separator, ih true]
      · rw [if_neg separator, if_neg separator, ih false]
        cases atStart with
        | false => exact (insertReturns_cons feed _).symm
        | true => exact (keepsBreaks_upperCase.insertReturns_append feed _).symm

/-- Joined words have no line break that the identifier does not have. -/
theorem not_mem_joinWords (atStart : Bool) {b : Char} (isBreak : b = '\n' ∨ b = '\r')
    {text : List Char} (free : b ∉ text) : b ∉ joinWords atStart text := by
  induction text generalizing atStart with
  | nil => exact free
  | cons c rest ih =>
    rw [List.mem_cons, not_or] at free
    obtain ⟨different, free⟩ := free
    rw [joinWords]
    by_cases separator : isSeparator c = true
    · rw [if_pos separator]
      exact ih true free
    · rw [if_neg separator, List.mem_append]
      refine not_or_intro ?_ (ih false free)
      cases atStart with
      | false => exact List.mem_singleton.not.mpr different
      | true => exact keepsBreaks_upperCase.not_mem isBreak different

/-- A member is spelt with its carriage returns where its identifier has them. -/
theorem pascalCase_withReturns (identifier : String) :
    pascalCase (withReturns identifier) = withReturns (pascalCase identifier) := by
  rw [pascalCase, toList_withReturns, joinWords_insertReturns, withReturns, pascalCase,
    String.toList_ofList]

/-- A member is spelt without a line break that its identifier does not have. -/
theorem not_mem_pascalCase {b : Char} (isBreak : b = '\n' ∨ b = '\r') {identifier : String}
    (free : b ∉ identifier.toList) : b ∉ (pascalCase identifier).toList := by
  rw [pascalCase, String.toList_ofList]
  exact not_mem_joinWords true isBreak free

/-- A member is spelt without carriage returns when its identifier has none. -/
theorem returnFree_pascalCase {identifier : String} (free : ReturnFree identifier) :
    ReturnFree (pascalCase identifier) := not_mem_pascalCase (.inr rfl) free

/-- No reserved word has a line feed. -/
theorem feedless_reservedWords : ∀ word ∈ reservedWords, '\n' ∉ word.toList := by
  decide +kernel

/-- A name is reserved with its carriage returns exactly when it is reserved. -/
theorem escapeReserved_withReturns (name : String) :
    escapeReserved (withReturns name) = withReturns (escapeReserved name) := by
  have same : reservedWords.contains (withReturns name) = reservedWords.contains name := by
    rw [Bool.eq_iff_iff, List.contains_iff_mem, List.contains_iff_mem]
    constructor
    · intro reserved
      have unchanged := (withReturns_eq_iff (feedless_reservedWords _ reserved)).mp rfl
      rwa [← unchanged] at reserved
    · intro reserved
      rwa [withReturns_of_not_mem (feedless_reservedWords _ reserved)]
  rw [escapeReserved, escapeReserved, same]
  by_cases reserved : reservedWords.contains name = true
  · rw [if_pos reserved, if_pos reserved, withReturns_append]
    rfl
  · rw [if_neg reserved, if_neg reserved]

/-- A parameter is spelt with its carriage returns where its identifier has them. -/
theorem parameterName_withReturns (identifier : String) :
    parameterName (withReturns identifier) = withReturns (parameterName identifier) := by
  rw [parameterName, pascalCase_withReturns, lowerFirst_withReturns, escapeReserved_withReturns]
  rfl

/-- A parameter is spelt without carriage returns when its identifier has none. -/
theorem returnFree_parameterName {identifier : String} (free : ReturnFree identifier) :
    ReturnFree (parameterName identifier) := by
  have small : ReturnFree (lowerFirst (pascalCase identifier)) :=
    not_mem_lowerFirst (.inr rfl) (returnFree_pascalCase free)
  have mark : ReturnFree "@" := by decide
  rw [parameterName, escapeReserved]
  by_cases reserved : reservedWords.contains (lowerFirst (pascalCase identifier)) = true
  · rw [if_pos reserved]
    exact mark.append small
  · rw [if_neg reserved]
    exact small

end Spelling

end MessageContracts
