import MessageContracts.Proofs.CasedLetters

/-!
# Joining the words of an identifier

The words of an identifier are joined one by one, so only the words matter and not which separators
stand between them, or how many. Joined words hold no separator and begin with a capital, and so
they are already as they would be joined again.
-/

namespace MessageContracts

namespace Spelling

open Text

/-- A hyphen or an underscore. -/
abbrev Separator := {c : Char // isSeparator c = true}

/-- A row of separators as a text. -/
def separatorText (row : List Separator) : String := String.ofList (row.map Subtype.val)

/-- Characters with every separator chosen anew, by its position. -/
def respell (choice : Nat → Separator) : Nat → List Char → List Char
  | _, [] => []
  | position, c :: rest =>
    (if isSeparator c then (choice position).val else c) :: respell choice (position + 1) rest

/-- An identifier with every separator chosen anew, by its position. -/
def respelled (choice : Nat → Separator) (identifier : String) : String :=
  String.ofList (respell choice 0 identifier.toList)

variable {atStart : Bool} {c : Char} {first second rest : List Char}

/-- A separator is dropped, and a word starts behind it. -/
theorem joinWords_of_isSeparator (separator : isSeparator c = true) :
    joinWords atStart (c :: rest) = joinWords true rest := by
  rw [joinWords, if_pos separator]

/-- A word that starts is given a capital. -/
theorem joinWords_start (part : isSeparator c = false) :
    joinWords true (c :: rest) = upperCase c ++ joinWords false rest := by
  rw [joinWords, part, if_neg Bool.false_ne_true, if_pos rfl]

/-- A word goes on as it is. -/
theorem joinWords_inside (part : isSeparator c = false) :
    joinWords false (c :: rest) = c :: joinWords false rest := by
  rw [joinWords, part, if_neg Bool.false_ne_true, if_neg Bool.false_ne_true]
  rfl

/-- What stands on both sides of a separator is joined on its own. -/
theorem joinWords_append (separator : isSeparator c = true) :
    joinWords atStart (first ++ c :: second) =
      joinWords atStart first ++ joinWords true second := by
  induction first generalizing atStart with
  | nil => exact joinWords_of_isSeparator separator
  | cons d rest ih =>
    rw [List.cons_append, joinWords, joinWords]
    by_cases also : isSeparator d = true
    · rw [if_pos also, if_pos also, ih]
    · rw [if_neg also, if_neg also, ih, List.append_assoc]

/-- Separators in front are dropped. -/
theorem joinWords_separators (row : List Separator) :
    joinWords true (row.map Subtype.val ++ rest) = joinWords true rest := by
  induction row with
  | nil => rfl
  | cons separator row ih =>
    rw [List.map_cons, List.cons_append, joinWords_of_isSeparator separator.property, ih]

/-- Separators at the end are dropped. -/
theorem joinWords_append_separators (row : List Separator) :
    joinWords atStart (first ++ row.map Subtype.val) = joinWords atStart first := by
  cases row with
  | nil => rw [List.map_nil, List.append_nil]
  | cons separator row =>
    have none_left : joinWords true (row.map Subtype.val ++ []) = [] := joinWords_separators row
    rw [List.append_nil] at none_left
    rw [List.map_cons, joinWords_append separator.property, none_left]
    exact List.append_nil _

/-- Which separators there are has no part in the joined words. -/
theorem joinWords_respell (choice : Nat → Separator) (position : Nat) (text : List Char) :
    joinWords atStart (respell choice position text) = joinWords atStart text := by
  induction text generalizing atStart position with
  | nil => rfl
  | cons c rest ih =>
    rw [respell]
    cases separator : isSeparator c with
    | true =>
      rw [if_pos rfl, joinWords_of_isSeparator (choice position).property,
        joinWords_of_isSeparator separator, ih]
    | false =>
      rw [if_neg Bool.false_ne_true]
      cases atStart with
      | true => rw [joinWords_start separator, joinWords_start separator, ih]
      | false => rw [joinWords_inside separator, joinWords_inside separator, ih]

/-- A separator is in no upper-case mapping but its own. -/
theorem eq_of_isSeparator_of_mem_upperCase {d : Char} (separator : isSeparator d = true)
    (mapped : d ∈ upperCase c) : d = c := by
  rw [isSeparator, Bool.or_eq_true, beq_iff_eq, beq_iff_eq] at separator
  rcases separator with rfl | rfl
  · have hyphen : isUnreached '-'.toNat upperRuns upperExpansions = true := by decide +kernel
    exact eq_of_mem_mapCase hyphen mapped
  · have underscore : isUnreached '_'.toNat upperRuns upperExpansions = true := by decide +kernel
    exact eq_of_mem_mapCase underscore mapped

/-- Joined words hold no separator. -/
theorem isSeparator_of_mem_joinWords {d : Char} {text : List Char}
    (member : d ∈ joinWords atStart text) : isSeparator d = false := by
  induction text generalizing atStart with
  | nil => cases member
  | cons c rest ih =>
    cases separator : isSeparator c with
    | true =>
      rw [joinWords_of_isSeparator separator] at member
      exact ih member
    | false =>
      cases atStart with
      | true =>
        rw [joinWords_start separator] at member
        rcases List.mem_append.mp member with mapped | later
        · cases also : isSeparator d with
          | false => rfl
          | true =>
            rw [eq_of_isSeparator_of_mem_upperCase also mapped, separator] at also
            cases also
        · exact ih later
      | false =>
        rw [joinWords_inside separator] at member
        rcases List.mem_cons.mp member with rfl | later
        · exact separator
        · exact ih later

/-- Characters without a separator are one word, which goes on as it is. -/
theorem joinWords_of_forall_not {text : List Char}
    (one : ∀ c ∈ text, isSeparator c = false) : joinWords false text = text := by
  induction text with
  | nil => rfl
  | cons c rest ih =>
    obtain ⟨here, later⟩ := List.forall_mem_cons.mp one
    rw [joinWords_inside here, ih later]

/-- There is no joined word when there are only separators, and else a capital comes first. -/
theorem joinWords_cases (text : List Char) :
    ((∀ c ∈ text, isSeparator c = true) ∧ joinWords true text = []) ∨
    ((∃ c ∈ text, isSeparator c = false) ∧
      ∃ d rest, joinWords true text = d :: rest ∧ IsCapital d) := by
  induction text with
  | nil => exact .inl ⟨List.forall_mem_nil _, rfl⟩
  | cons c rest ih =>
    cases separator : isSeparator c with
    | true =>
      rw [joinWords_of_isSeparator separator]
      refine ih.imp (fun ⟨all, nothing⟩ => ?_) fun ⟨⟨d, member, part⟩, capital⟩ => ?_
      · exact ⟨List.forall_mem_cons.mpr ⟨separator, all⟩, nothing⟩
      · exact ⟨⟨d, List.mem_cons_of_mem _ member, part⟩, capital⟩
    | false =>
      obtain ⟨d, others, mapped, capital⟩ := exists_upperCase_eq_cons c
      refine .inr ⟨⟨c, List.mem_cons_self, separator⟩, d, others ++ joinWords false rest, ?_,
        capital⟩
      rw [joinWords_start separator, mapped, List.cons_append]

/-- Joining joined words changes nothing. -/
theorem joinWords_joinWords (text : List Char) :
    joinWords true (joinWords true text) = joinWords true text := by
  rcases joinWords_cases text with ⟨-, nothing⟩ | ⟨-, d, rest, joined, capital⟩
  · rw [nothing]
    rfl
  · have one : ∀ c ∈ d :: rest, isSeparator c = false := fun c member =>
      isSeparator_of_mem_joinWords (joined.symm ▸ member)
    obtain ⟨here, later⟩ := List.forall_mem_cons.mp one
    rw [joined, joinWords_start here, upperCase_of_isCapital capital,
      joinWords_of_forall_not later]
    rfl

/-- The characters of an identifier with its words joined. -/
theorem toList_pascalCase (identifier : String) :
    (pascalCase identifier).toList = joinWords true identifier.toList := String.toList_ofList

/-- What stands on both sides of a row of separators is joined on its own. -/
theorem pascalCase_append (before after : String) (separator : Separator) (row : List Separator) :
    pascalCase (before ++ separatorText (separator :: row) ++ after) =
      pascalCase before ++ pascalCase after := by
  apply String.toList_inj.mp
  simp only [toList_pascalCase, String.toList_append, separatorText, String.toList_ofList,
    List.map_cons, List.append_assoc, List.cons_append]
  rw [joinWords_append separator.property, joinWords_separators]

/-- Separators at both ends are dropped. -/
theorem pascalCase_enclosed (front back : List Separator) (identifier : String) :
    pascalCase (separatorText front ++ identifier ++ separatorText back) =
      pascalCase identifier := by
  apply String.toList_inj.mp
  simp only [toList_pascalCase, String.toList_append, separatorText, String.toList_ofList]
  rw [joinWords_append_separators, joinWords_separators]

/-- A single separator as a text. -/
theorem separatorText_singleton (separator : Separator) :
    separatorText [separator] = String.singleton separator.val := by
  apply String.toList_inj.mp
  rw [separatorText, String.toList_ofList, String.toList_singleton]
  rfl

/-- Between two parts of an identifier a separator has no effect but to start a word. So it does not
matter which separators there are, whether they are repeated, or whether there are more of them at
either end. In the spelling of a field there are none, and spelling it again changes nothing. -/
theorem pascalCase_joins_words :
    (∀ (before after : String) (separator : Separator),
      pascalCase (before ++ String.singleton separator.val ++ after) =
        pascalCase before ++ pascalCase after) ∧
    (∀ (choice : Nat → Separator) (identifier : String),
      pascalCase (respelled choice identifier) = pascalCase identifier) ∧
    (∀ (before after : String) (separator : Separator) (row : List Separator),
      pascalCase (before ++ separatorText (separator :: row) ++ after) =
        pascalCase (before ++ String.singleton separator.val ++ after)) ∧
    (∀ (front back : List Separator) (identifier : String),
      pascalCase (separatorText front ++ identifier ++ separatorText back) =
        pascalCase identifier) ∧
    (∀ (separator : Separator) (identifier : String),
      separator.val ∉ (pascalCase identifier).toList) ∧
    ∀ identifier : String, pascalCase (pascalCase identifier) = pascalCase identifier := by
  refine ⟨fun before after separator => ?_, fun choice identifier => ?_,
    fun before after separator row => ?_, pascalCase_enclosed,
    fun separator identifier member => ?_, fun identifier => ?_⟩
  · rw [← separatorText_singleton, pascalCase_append]
  · rw [pascalCase, respelled, String.toList_ofList, joinWords_respell, pascalCase]
  · rw [← separatorText_singleton, pascalCase_append, pascalCase_append]
  · rw [toList_pascalCase] at member
    have part := isSeparator_of_mem_joinWords member
    rw [separator.property] at part
    cases part
  · rw [pascalCase, toList_pascalCase, joinWords_joinWords, pascalCase]

end Spelling

end MessageContracts
