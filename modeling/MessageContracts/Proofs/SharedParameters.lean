import MessageContracts.Proofs.MemberSpellings

/-!
# Fields that share a parameter

Two different fields are given one parameter in two cases only. Either one is a reserved word with
the mark that would escape it, and the other is that word with a capital; or they differ in nothing
but two first letters with one small letter, of which Unicode has a few. A constructor has two
parameters of one name exactly when two of its fields are the same or share a parameter so.
-/

namespace MessageContracts

namespace Spelling

open Text

/-- Beginnings that come to the same with a small first letter: a letter beside its sign, and an I
under a dot of its own beside one that carries the dot. -/
def lookAlikes : List (String × String) := [
  ("K", "\u212A"), ("\u00C5", "\u212B"), ("\u03A9", "\u2126"), ("\u0398", "\u03F4"),
  ("I\u0307", "\u0130")]

/-- Two texts that differ in such a beginning only. -/
def LookAlike (first second : String) : Prop :=
  ∃ pair ∈ lookAlikes, ∃ rest, first = pair.1 ++ rest ∧ second = pair.2 ++ rest

/-- A reserved word with the mark, and the word itself but for the size of its first letter. -/
def MarkedAlike (first second : String) : Prop :=
  ∃ word ∈ reservedWords, first = "@" ++ word ∧ lowerFirst second = word

/-- Two different fields with one parameter. -/
inductive ShareParameter (first second : String) : Prop
  /-- The first field has the plain letter. -/
  | plainFirst (alike : LookAlike first second)
  /-- The second field has the plain letter. -/
  | plainSecond (alike : LookAlike second first)
  /-- The first field has the mark. -/
  | markedFirst (alike : MarkedAlike first second)
  /-- The second field has the mark. -/
  | markedSecond (alike : MarkedAlike second first)

/-- A stray capital whose small letters are those of another capital is listed beside it. -/
def isBeside (stray : Char) : Bool :=
  match lowerCase stray with
  | [] => false
  | small :: dot =>
    match upperCase small with
    | [capital] => lookAlikes.contains (String.ofList (capital :: dot), String.ofList [stray])
    | _ => true

/-- All stray capitals are listed so. -/
theorem strayCapitals_isBeside :
    strayCapitals.all (fun code => isBeside (Char.ofNat code)) = true := by
  decide +kernel

/-- Look-alikes come to the same with a small first letter. -/
theorem lookAlikes_lowerFirst : ∀ pair ∈ lookAlikes,
    pair.1 ≠ "" ∧ pair.2 ≠ "" ∧ lowerFirst pair.1 = lowerFirst pair.2 := by
  decide +kernel

/-- No two stray capitals have small letters that begin alike. -/
theorem strayCapitals_apart : ∀ code ∈ strayCapitals, ∀ other ∈ strayCapitals,
    (lowerCase (Char.ofNat code)).head? = (lowerCase (Char.ofNat other)).head? → code = other := by
  decide +kernel

variable {first second : String} {c d : Char} {rest others : List Char}

/-- A stray capital is a look-alike of every other capital whose small letters begin as its own. -/
theorem lookAlike_of_stray (firstChars : first.toList = c :: rest)
    (secondChars : second.toList = d :: others) (stray : d.toNat ∈ strayCapitals)
    (capital : IsCapital c) (straight : c.toNat ∉ strayCapitals)
    (same : lowerCase c ++ rest = lowerCase d ++ others) : LookAlike first second := by
  obtain ⟨small, mapped, back⟩ := exists_lowerCase_eq capital straight
  obtain ⟨letter, dot, strayMapped⟩ := exists_lowerCase_eq_cons d
  have beside := List.all_eq_true.mp strayCapitals_isBeside _ stray
  rw [mapped, strayMapped] at same
  obtain ⟨rfl, behind⟩ := List.cons.inj same
  rw [Char.ofNat_toNat, isBeside, strayMapped] at beside
  dsimp only at beside
  rw [back] at beside
  refine ⟨_, List.contains_iff_mem.mp beside, String.ofList others, ?_, ?_⟩
  · apply String.toList_inj.mp
    rw [firstChars, String.toList_append, String.toList_ofList, String.toList_ofList]
    exact congrArg (c :: ·) behind
  · apply String.toList_inj.mp
    rw [secondChars, String.toList_append, String.toList_ofList, String.toList_ofList]
    rfl

/-- Stray capitals are told apart by their small letters. -/
theorem eq_of_strays (stray : c.toNat ∈ strayCapitals) (alsoStray : d.toNat ∈ strayCapitals)
    (same : lowerCase c ++ rest = lowerCase d ++ others) : c = d := by
  obtain ⟨letter, more, mapped⟩ := exists_lowerCase_eq_cons c
  obtain ⟨other, moreOther, otherMapped⟩ := exists_lowerCase_eq_cons d
  have heads : (lowerCase c).head? = (lowerCase d).head? := by
    rw [mapped, otherMapped] at same ⊢
    exact congrArg some (List.cons.inj same).1
  have codes := strayCapitals_apart _ stray _ alsoStray
  rw [Char.ofNat_toNat, Char.ofNat_toNat] at codes
  exact Char.toNat_inj.mp (codes heads)

/-- Texts that begin with capitals and come to the same with small ones are the same or
look-alikes. -/
theorem eq_or_lookAlike (firstChars : first.toList = c :: rest)
    (secondChars : second.toList = d :: others) (capital : IsCapital c) (alsoCapital : IsCapital d)
    (same : lowerCase c ++ rest = lowerCase d ++ others) :
    first = second ∨ LookAlike first second ∨ LookAlike second first := by
  by_cases stray : c.toNat ∈ strayCapitals
  · by_cases alsoStray : d.toNat ∈ strayCapitals
    · obtain rfl := eq_of_strays stray alsoStray same
      rw [List.append_cancel_left same, ← secondChars] at firstChars
      exact .inl (String.toList_inj.mp firstChars)
    · exact .inr (.inr (lookAlike_of_stray secondChars firstChars stray alsoCapital alsoStray
        same.symm))
  · by_cases alsoStray : d.toNat ∈ strayCapitals
    · exact .inr (.inl (lookAlike_of_stray firstChars secondChars alsoStray capital stray same))
    · obtain ⟨small, mapped, back⟩ := exists_lowerCase_eq capital stray
      obtain ⟨alsoSmall, alsoMapped, alsoBack⟩ := exists_lowerCase_eq alsoCapital alsoStray
      rw [mapped, alsoMapped] at same
      obtain ⟨rfl, behind⟩ := List.cons.inj same
      obtain ⟨rfl, -⟩ := List.cons.inj (back.symm.trans alsoBack)
      have tails : rest = others := behind
      rw [tails, ← secondChars] at firstChars
      exact .inl (String.toList_inj.mp firstChars)

/-- Behind its first character a text may go on in any way when that character is made small. -/
theorem lowerFirst_append {text : String} (filled : text ≠ "") (more : String) :
    lowerFirst (text ++ more) = lowerFirst text ++ more := by
  cases chars : text.toList with
  | nil => exact absurd (String.toList_inj.mp chars) filled
  | cons c rest =>
    have longer : (text ++ more).toList = c :: (rest ++ more.toList) := by
      rw [String.toList_append, chars, List.cons_append]
    apply String.toList_inj.mp
    rw [toList_lowerFirst longer, String.toList_append, toList_lowerFirst chars, List.append_assoc]

/-- Look-alikes come to the same with a small first letter, whatever follows. -/
theorem LookAlike.lowerFirst_eq (alike : LookAlike first second) :
    lowerFirst first = lowerFirst second := by
  obtain ⟨pair, listed, rest, rfl, rfl⟩ := alike
  obtain ⟨filled, alsoFilled, same⟩ := lookAlikes_lowerFirst pair listed
  rw [lowerFirst_append filled, lowerFirst_append alsoFilled, same]

/-- Two fields come to the same with a small first letter when they are the same or look-alikes. -/
theorem lowerFirst_pascalCase_eq_iff (a b : String) :
    lowerFirst (pascalCase a) = lowerFirst (pascalCase b) ↔
      pascalCase a = pascalCase b ∨ LookAlike (pascalCase a) (pascalCase b) ∨
        LookAlike (pascalCase b) (pascalCase a) := by
  constructor
  · intro same
    have chars := congrArg String.toList same
    have nothing : (lowerFirst "").toList = [] := rfl
    rcases pascalCase_cases a with ⟨-, empty⟩ | ⟨-, c, rest, firstChars, capital⟩
    · rcases pascalCase_cases b with ⟨-, alsoEmpty⟩ | ⟨-, d, others, secondChars, -⟩
      · exact .inl (empty.trans alsoEmpty.symm)
      · obtain ⟨letter, more, mapped⟩ := exists_lowerCase_eq_cons d
        rw [empty, nothing, toList_lowerFirst secondChars, mapped] at chars
        cases chars
    · rcases pascalCase_cases b with ⟨-, alsoEmpty⟩ | ⟨-, d, others, secondChars, alsoCapital⟩
      · obtain ⟨letter, more, mapped⟩ := exists_lowerCase_eq_cons c
        rw [alsoEmpty, nothing, toList_lowerFirst firstChars, mapped] at chars
        cases chars
      · rw [toList_lowerFirst firstChars, toList_lowerFirst secondChars] at chars
        exact eq_or_lookAlike firstChars secondChars capital alsoCapital chars
  · rintro (same | alike | alike)
    · rw [same]
    · exact alike.lowerFirst_eq
    · exact alike.lowerFirst_eq.symm

/-- Only the marked text has the mark in front when its first letter is made small. -/
theorem lowerFirst_eq_marked_iff {text word : String} :
    lowerFirst text = "@" ++ word ↔ text = "@" ++ word := by
  have unreached : isUnreached '@'.toNat lowerRuns lowerExpansions = true := by decide +kernel
  have stays : lowerCase '@' = ['@'] := by decide +kernel
  have marked : ("@" ++ word).toList = '@' :: word.toList := String.toList_append ..
  have unchanged : lowerFirst ("@" ++ word) = "@" ++ word := by
    apply String.toList_inj.mp
    rw [toList_lowerFirst marked, stays, marked]
    rfl
  constructor
  · intro same
    have chars := congrArg String.toList same
    cases textChars : text.toList with
    | nil =>
      have empty : text = "" := String.toList_inj.mp textChars
      rw [empty, marked] at chars
      cases chars
    | cons c rest =>
      obtain ⟨letter, more, mapped⟩ := exists_lowerCase_eq_cons c
      rw [toList_lowerFirst textChars, marked] at chars
      have first : '@' ∈ lowerCase c := by
        rw [mapped] at chars ⊢
        rw [(List.cons.inj chars).1]
        exact List.mem_cons_self
      obtain rfl : '@' = c := eq_of_mem_mapCase unreached first
      rw [stays] at chars
      apply String.toList_inj.mp
      rw [textChars, marked]
      exact chars
  · rintro rfl
    exact unchanged

/-- Escaped names agree when the names do, or when one is the other, marked. -/
theorem escapeReserved_eq_iff {name other : String} :
    escapeReserved name = escapeReserved other ↔
      name = other ∨ (name ∈ reservedWords ∧ other = "@" ++ name) ∨
        (other ∈ reservedWords ∧ name = "@" ++ other) := by
  have unmarked {word : String} (reserved : word ∈ reservedWords) (marked : String) :
      word ≠ "@" ++ marked := fun same => marked_not_mem_reservedWords marked (same ▸ reserved)
  by_cases reserved : name ∈ reservedWords
  · by_cases alsoReserved : other ∈ reservedWords
    · rw [escapeReserved_of_mem reserved, escapeReserved_of_mem alsoReserved,
        String.append_right_inj]
      simp [unmarked reserved, unmarked alsoReserved]
    · rw [escapeReserved_of_mem reserved, escapeReserved_of_not_mem alsoReserved]
      constructor
      · intro marked
        exact .inr (.inl ⟨reserved, marked.symm⟩)
      · rintro (same | ⟨-, marked⟩ | ⟨also, -⟩)
        · exact absurd (same ▸ reserved) alsoReserved
        · exact marked.symm
        · exact absurd also alsoReserved
  · by_cases alsoReserved : other ∈ reservedWords
    · rw [escapeReserved_of_not_mem reserved, escapeReserved_of_mem alsoReserved]
      constructor
      · intro marked
        exact .inr (.inr ⟨alsoReserved, marked⟩)
      · rintro (same | ⟨also, -⟩ | ⟨-, marked⟩)
        · exact absurd (same ▸ alsoReserved) reserved
        · exact absurd also reserved
        · exact marked
    · rw [escapeReserved_of_not_mem reserved, escapeReserved_of_not_mem alsoReserved]
      simp [reserved, alsoReserved]

/-- A marked word is given by the other text. -/
theorem markedAlike_iff {first second : String} :
    MarkedAlike first second ↔ lowerFirst second ∈ reservedWords ∧
      first = "@" ++ lowerFirst second := by
  constructor
  · rintro ⟨word, reserved, marked, rfl⟩
    exact ⟨reserved, marked⟩
  · rintro ⟨reserved, marked⟩
    exact ⟨_, reserved, marked, rfl⟩

/-- The ways to share a parameter. -/
theorem shareParameter_iff {first second : String} :
    ShareParameter first second ↔ (LookAlike first second ∨ LookAlike second first) ∨
      MarkedAlike second first ∨ MarkedAlike first second := by
  constructor
  · rintro (alike | alike | alike | alike)
    · exact .inl (.inl alike)
    · exact .inl (.inr alike)
    · exact .inr (.inr alike)
    · exact .inr (.inl alike)
  · rintro ((alike | alike) | alike | alike)
    · exact .plainFirst alike
    · exact .plainSecond alike
    · exact .markedSecond alike
    · exact .markedFirst alike

/-- The parameters of two fields agree when the fields do or share a parameter. -/
theorem parameterName_eq_iff (a b : String) :
    parameterName a = parameterName b ↔
      pascalCase a = pascalCase b ∨ ShareParameter (pascalCase a) (pascalCase b) := by
  rw [parameterName, parameterName, escapeReserved_eq_iff, lowerFirst_pascalCase_eq_iff,
    lowerFirst_eq_marked_iff, lowerFirst_eq_marked_iff, ← markedAlike_iff, ← markedAlike_iff,
    or_assoc, shareParameter_iff]

/-- Two identifiers are given the same parameter exactly when they are given the same field, or two
fields that share a parameter. So the parameters of a constructor are all different exactly when its
fields are, and no two of them share a parameter. -/
theorem csharp_parameters_agree (settings : Settings) :
    let spelling := (Generator.ofSettings settings).spelling
    (∀ a b : String, spelling.parameter a = spelling.parameter b ↔
      spelling.member a = spelling.member b ∨
        ShareParameter (spelling.member a) (spelling.member b)) ∧
    ∀ contract : Message,
      (contract.members.map fun member => spelling.parameter member.name).Nodup ↔
        contract.members.Pairwise fun member other =>
          spelling.member member.name ≠ spelling.member other.name ∧
            ¬ShareParameter (spelling.member member.name) (spelling.member other.name) := by
  dsimp only
  rw [Generator.ofSettings_member, Generator.ofSettings_parameter]
  refine ⟨parameterName_eq_iff, fun contract => ?_⟩
  rw [List.Nodup, List.pairwise_map]
  refine List.Pairwise.iff fun member other => ?_
  rw [ne_eq, parameterName_eq_iff, not_or]

/-- The members `class` and `@class` have two fields and one parameter, and so have the letter K and
the sign of the kelvin. -/
theorem distinct_fields_share_parameter :
    (csharp.member "class" ≠ csharp.member "@class" ∧
      csharp.parameter "class" = csharp.parameter "@class") ∧
    (csharp.member "K" ≠ csharp.member "\u212A" ∧
      csharp.parameter "K" = csharp.parameter "\u212A") ∧
    let members : List Member := [⟨"int", "class"⟩, ⟨"int", "@class"⟩]
    (members.map fun member => csharp.member member.name).Nodup ∧
      ¬(members.map fun member => csharp.parameter member.name).Nodup := by
  decide +kernel

end Spelling

end MessageContracts
