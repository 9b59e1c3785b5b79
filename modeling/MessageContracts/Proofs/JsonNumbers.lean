import MessageContracts.Json.Number

/-!
# The grammar of numbers

A number has a whole part, and may have a sign, a fraction and an exponent. A number that is written
by these rules is read up to the first character that cannot go on with it, such as a blank, a comma
or a closing bracket. Whatever its size, it stands for a value or at least for a well-formed node.
-/

namespace MessageContracts.Json

open Text (Scalar)

/-- One digit or more. -/
def IsDigits (chars : List Char) : Prop := chars ≠ [] ∧ ∀ c ∈ chars, c.isDigit = true

/-- The whole part of a number, with no zero in front of another digit. -/
inductive IsWhole : List Char → Prop where
  /-- Zero. -/
  | zero : IsWhole ['0']
  /-- Digits of which the first is not zero. -/
  | digits {chars : List Char} (digits : IsDigits chars) (first : chars.head? ≠ some '0') :
    IsWhole chars

/-- The fraction of a number. -/
inductive IsFraction : List Char → Prop where
  /-- No fraction. -/
  | absent : IsFraction []
  /-- Digits after a dot. -/
  | digits {chars : List Char} (digits : IsDigits chars) : IsFraction ('.' :: chars)

/-- The exponent of a number. -/
inductive IsExponent : List Char → Prop where
  /-- No exponent. -/
  | absent : IsExponent []
  /-- Digits after a mark, with a sign or without. -/
  | digits {mark : Char} {sign chars : List Char} (marked : mark = 'e' ∨ mark = 'E')
    (signed : sign = [] ∨ sign = ['+'] ∨ sign = ['-']) (digits : IsDigits chars) :
    IsExponent (mark :: sign ++ chars)

/-- A number. -/
def IsNumber (chars : List Char) : Prop :=
  ∃ sign whole fraction exponent, (sign = [] ∨ sign = ['-']) ∧ IsWhole whole ∧
    IsFraction fraction ∧ IsExponent exponent ∧ chars = sign ++ whole ++ fraction ++ exponent

/-- Whether a source, unless it is at its end, begins with one of these characters. -/
def BeginsIn (marks : List Char) (source : List Scalar) : Prop :=
  ∀ c ∈ source.head?, c ∈ marks.map some

/-- The characters that may follow a value. -/
def delimiters : List Char := [' ', '\n', '\t', '\r', ',', ']', '\x7d']

/-- A source in which a value is followed by nothing that could go on with it. -/
def Delimited (source : List Scalar) : Prop := BeginsIn delimiters source

section Reading

variable {chars marks : List Char} {rest : List Scalar}

/-- A source that begins with this character begins in a list that holds it. -/
theorem beginsIn_cons {c : Char} (listed : c ∈ marks) (rest : List Scalar) :
    BeginsIn marks (some c :: rest) := by
  intro first head
  have same : some c = first := Option.some.inj head
  rw [← same]
  exact List.mem_map_of_mem listed

/-- More characters may be listed than a source begins in. -/
theorem BeginsIn.mono {more : List Char} (begins : BeginsIn marks rest) (subset : marks ⊆ more) :
    BeginsIn more rest :=
  fun c head => List.map_subset some subset (begins c head)

/-- A source that begins in a list does not begin with what the list does not hold. -/
theorem BeginsIn.ne {c : Char} (begins : BeginsIn marks (some c :: rest)) {other : Char}
    (unlisted : other ∉ marks) : c ≠ other := by
  rintro rfl
  obtain ⟨mark, listed, same⟩ := List.mem_map.mp (begins (some c) rfl)
  exact unlisted (Option.some.inj same ▸ listed)

/-- Digits are read up to the first character that is not one. -/
theorem takeDigits_append (digits : ∀ c ∈ chars, c.isDigit = true)
    (stops : ∀ c ∈ rest.head?, digit? c = none) :
    takeDigits (chars.map some ++ rest) = (chars.map fun c => c.toNat - '0'.toNat, rest) := by
  induction chars with
  | nil =>
    cases rest with
    | nil => rfl
    | cons c rest =>
      have stop : digit? c = none := stops c rfl
      rw [List.map_nil, List.nil_append, takeDigits, stop]
      rfl
  | cons c more ih =>
    obtain ⟨here, later⟩ := List.forall_mem_cons.mp digits
    have value : digit? (some c) = some (c.toNat - '0'.toNat) := if_pos here
    rw [List.map_cons, List.cons_append, takeDigits, value]
    simp only [ih later]
    rfl

/-- What may follow the digits of a number stops them. -/
theorem digit?_of_beginsIn (begins : BeginsIn ('.' :: 'e' :: 'E' :: delimiters) rest) :
    ∀ c ∈ rest.head?, digit? c = none := by
  have marks : ∀ c ∈ ('.' :: 'e' :: 'E' :: delimiters).map some, digit? c = none := by decide
  exact fun c head => marks c (begins c head)

/-- No digit comes before zero. -/
theorem le_toNat_of_isDigit {c : Char} (digit : c.isDigit = true) : '0'.toNat ≤ c.toNat := by
  simp only [Char.isDigit, Bool.and_eq_true, decide_eq_true_eq] at digit
  exact digit.1

/-- Digits are at least one value. -/
theorem takeDigits_digits (digits : IsDigits chars) :
    ∃ first more, ∀ rest, BeginsIn ('.' :: 'e' :: 'E' :: delimiters) rest →
      takeDigits (chars.map some ++ rest) = (first :: more, rest) := by
  obtain ⟨filled, each⟩ := digits
  obtain ⟨c, more, rfl⟩ := List.exists_cons_of_ne_nil filled
  exact ⟨_, _, fun rest begins => takeDigits_append each (digit?_of_beginsIn begins)⟩

/-- A whole part is read. -/
theorem readWhole_append (whole : IsWhole chars) :
    ∃ digits, ∀ rest, BeginsIn ('.' :: 'e' :: 'E' :: delimiters) rest →
      readWhole (chars.map some ++ rest) = some (digits, rest) := by
  cases whole with
  | zero =>
    have digit : ∀ c ∈ ['0'], c.isDigit = true := List.forall_mem_singleton.mpr rfl
    refine ⟨[0], fun rest begins => ?_⟩
    have taken : takeDigits (['0'].map some ++ rest) = ([0], rest) :=
      takeDigits_append digit (digit?_of_beginsIn begins)
    rw [readWhole, taken]
    rfl
  | digits digits first =>
    obtain ⟨filled, each⟩ := digits
    obtain ⟨c, more, rfl⟩ := List.exists_cons_of_ne_nil filled
    have nonzero : c.toNat - '0'.toNat ≠ 0 := by
      have least : '0'.toNat ≤ c.toNat := le_toNat_of_isDigit (each c List.mem_cons_self)
      intro zero
      have same : c.toNat = '0'.toNat := by omega
      exact first (congrArg some (Char.toNat_inj.mp same))
    refine ⟨(c :: more).map fun c => c.toNat - '0'.toNat, fun rest begins => ?_⟩
    rw [readWhole, takeDigits_append each (digit?_of_beginsIn begins)]
    split
    case h_1 none_there => cases none_there
    case h_2 zero_there => exact absurd (List.cons.inj (Prod.mk.inj zero_there).1).1 nonzero
    case h_3 taken => rw [← taken]

/-- A fraction is read. -/
theorem readFraction_append (fraction : IsFraction chars) :
    ∃ digits, ∀ rest, BeginsIn ('e' :: 'E' :: delimiters) rest →
      readFraction (chars.map some ++ rest) = some (digits, rest) := by
  cases fraction with
  | absent =>
    have no_dot : '.' ∉ 'e' :: 'E' :: delimiters := by decide
    refine ⟨[], fun rest begins => readFraction.eq_2 rest fun more same => ?_⟩
    subst same
    exact begins.ne no_dot rfl
  | @digits chars digits =>
    obtain ⟨first, more, taken⟩ := takeDigits_digits digits
    refine ⟨first :: more, fun rest begins => ?_⟩
    rw [List.map_cons, List.cons_append, readFraction,
      taken rest (begins.mono (List.subset_cons_self _ _))]

/-- An exponent is read. -/
theorem readExponent_append (exponent : IsExponent chars) :
    ∃ value, ∀ rest, Delimited rest →
      readExponent (chars.map some ++ rest) = some (value, rest) := by
  cases exponent with
  | absent =>
    refine ⟨none, fun rest ends => ?_⟩
    cases rest with
    | nil => rfl
    | cons first rest =>
      cases first with
      | none => rfl
      | some c =>
        have unmarked : ¬(c = 'e' ∨ c = 'E') :=
          not_or_intro (ends.ne (by decide)) (ends.ne (by decide))
        rw [List.map_nil, List.nil_append, readExponent.eq_def]
        simp only [if_neg unmarked]
  | @digits mark sign chars marked signed digits =>
    obtain ⟨first, more, taken⟩ := takeDigits_digits digits
    have follows {rest : List Scalar} (ends : Delimited rest) :
        takeDigits (chars.map some ++ rest) = (first :: more, rest) :=
      taken rest (ends.mono (List.subset_append_right ['.', 'e', 'E'] delimiters))
    let value : Nat := (first :: more).foldl (fun value digit => value * 10 + digit) 0
    rcases signed with rfl | rfl | rfl
    · obtain ⟨filled, each⟩ := digits
      obtain ⟨c, others, rfl⟩ := List.exists_cons_of_ne_nil filled
      have digit : c.isDigit = true := each c List.mem_cons_self
      have no_plus : c ≠ '+' := by rintro rfl; exact absurd digit (by decide)
      have no_minus : c ≠ '-' := by rintro rfl; exact absurd digit (by decide)
      refine ⟨some (value : Int), fun rest ends => ?_⟩
      have step := readExponent.eq_3 mark ((c :: others).map some ++ rest)
        (fun _ same => no_plus (Option.some.inj (List.cons.inj same).1))
        (fun _ same => no_minus (Option.some.inj (List.cons.inj same).1))
      simp only [if_pos marked, follows ends] at step
      exact step
    · refine ⟨some (value : Int), fun rest ends => ?_⟩
      rw [readExponent.eq_def]
      simp only [List.cons_append, List.nil_append, List.map_cons, if_pos marked, follows ends]
      rfl
    · refine ⟨some (-value : Int), fun rest ends => ?_⟩
      rw [readExponent.eq_def]
      simp only [List.cons_append, List.nil_append, List.map_cons, if_pos marked, follows ends]
      rfl

/-- An exponent begins with its mark, or not at all. -/
theorem IsExponent.begins (exponent : IsExponent chars) (ends : Delimited rest) :
    BeginsIn ('e' :: 'E' :: delimiters) (chars.map some ++ rest) := by
  cases exponent with
  | absent => exact ends.mono (List.subset_append_right ['e', 'E'] delimiters)
  | digits marked signed digits =>
    apply beginsIn_cons
    rcases marked with rfl | rfl
    · exact List.mem_cons_self
    · exact List.mem_cons_of_mem _ List.mem_cons_self

/-- A fraction begins with its dot, or not at all. -/
theorem IsFraction.begins (fraction : IsFraction chars)
    (begins : BeginsIn ('e' :: 'E' :: delimiters) rest) :
    BeginsIn ('.' :: 'e' :: 'E' :: delimiters) (chars.map some ++ rest) := by
  cases fraction with
  | absent => exact begins.mono (List.subset_cons_self _ _)
  | digits digits => exact beginsIn_cons List.mem_cons_self _

/-- A whole part begins with a digit. -/
theorem IsWhole.head (whole : IsWhole chars) :
    ∃ c more, chars = c :: more ∧ c.isDigit = true := by
  cases whole with
  | zero => exact ⟨'0', [], rfl, by decide⟩
  | digits digits first =>
    obtain ⟨filled, each⟩ := digits
    obtain ⟨c, more, rfl⟩ := List.exists_cons_of_ne_nil filled
    exact ⟨c, more, rfl, each c List.mem_cons_self⟩

/-- A number begins with a digit or a minus sign. -/
theorem IsNumber.head (number : IsNumber chars) :
    ∃ c more, chars = c :: more ∧ (c = '-' ∨ c.isDigit = true) := by
  obtain ⟨sign, whole, fraction, exponent, signed, isWhole, -, -, rfl⟩ := number
  obtain ⟨c, more, rfl, digit⟩ := isWhole.head
  rcases signed with rfl | rfl
  · exact ⟨c, _, rfl, .inr digit⟩
  · exact ⟨'-', _, rfl, .inl rfl⟩

/-- A number is read up to what cannot go on with it. -/
theorem readLiteral_append (number : IsNumber chars) :
    ∃ literal, ∀ rest, Delimited rest →
      readLiteral (chars.map some ++ rest) = some (literal, rest) := by
  obtain ⟨sign, whole, fraction, exponent, signed, isWhole, isFraction, isExponent, rfl⟩ := number
  obtain ⟨digits, readsWhole⟩ := readWhole_append isWhole
  obtain ⟨decimals, readsFraction⟩ := readFraction_append isFraction
  obtain ⟨power, readsExponent⟩ := readExponent_append isExponent
  refine ⟨⟨!sign.isEmpty, digits, decimals, power⟩, fun rest ends => ?_⟩
  have exponentBegins := isExponent.begins ends
  have fractionBegins := isFraction.begins exponentBegins
  have parts : (sign ++ whole ++ fraction ++ exponent).map some ++ rest = sign.map some ++
      (whole.map some ++ (fraction.map some ++ (exponent.map some ++ rest))) := by
    simp only [List.map_append, List.append_assoc]
  rw [parts]
  rcases signed with rfl | rfl
  · obtain ⟨c, more, rfl, digit⟩ := isWhole.head
    have no_minus : c ≠ '-' := by rintro rfl; exact absurd digit (by decide)
    rw [List.map_nil, List.nil_append, readLiteral.eq_2]
    · simp only [readsWhole _ fractionBegins, readsFraction _ exponentBegins,
        readsExponent rest ends, Option.bind_eq_bind, Option.bind_some]
      rfl
    · exact fun _ same => no_minus (Option.some.inj (List.cons.inj same).1)
  · rw [List.map_singleton, List.singleton_append, readLiteral.eq_1]
    simp only [readsWhole _ fractionBegins, readsFraction _ exponentBegins,
      readsExponent rest ends, Option.bind_eq_bind, Option.bind_some]
    rfl

end Reading

/-- The node of a number is well formed, whether or not the number is in range. -/
theorem Literal.isWellFormed_node (literal : Literal) : literal.node.isWellFormed = true := by
  have real : literal.real.isWellFormed = true := by
    rw [Literal.real]
    dsimp only
    cases scale literal.scaled.1 literal.scaled.2 <;> rfl
  rw [Literal.node]
  dsimp only
  split
  · split
    · rfl
    · split
      · rfl
      · exact real
  · exact real

end MessageContracts.Json
