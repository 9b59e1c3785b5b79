import Mathlib.Data.List.Basic
import MessageContracts.Toml.Text

/-!
# Texts that are written are read back

A text is written in one of four forms, and in each of them the reader finds the text again,
whatever follows it but another quote or apostrophe. Between quotes every character stands for
itself or is escaped. Between tripled marks the question is where the text ends: up to two marks in
a row belong to it, so a row of marks is read as a whole.
-/

namespace MessageContracts.Toml

/-- The letters after a backslash that writing uses, with the characters that they stand for. -/
def escapeLetters : List (Char × Char) :=
  [('b', '\x08'), ('t', '\t'), ('f', '\x0c'), ('r', '\r'), ('"', '"'), ('\\', '\\'), ('n', '\n')]

/-- How a character may stand between quotes, or between tripled ones. -/
inductive Escaped (long : Bool) (c : Char) : List Char → Prop where
  /-- As it is, if it is visible or may break a line here. -/
  | bare (allowed : isPlain c = true ∨ long = true ∧ c = '\n') (no_quote : c ≠ '"')
    (no_backslash : c ≠ '\\') : Escaped long c [c]
  /-- By a letter after a backslash. -/
  | letter {letter : Char} (listed : (letter, c) ∈ escapeLetters) : Escaped long c ['\\', letter]
  /-- By its number in four hexadecimal digits. -/
  | code {first second third fourth : Char}
    (code : Text.hexChar? [first, second, third, fourth] = some c) :
    Escaped long c ['\\', 'u', first, second, third, fourth]

/-- The number of a control character in four hexadecimal digits. -/
theorem hexChar?_upperHexDigit {n : Nat} (control : n < 128) :
    Text.hexChar? ['0', '0', upperHexDigit (n / 16), upperHexDigit (n % 16)] =
      some (Char.ofNat n) := by
  have all : ∀ n : Fin 128, Text.hexChar? ['0', '0', upperHexDigit (n.val / 16),
      upperHexDigit (n.val % 16)] = some (Char.ofNat n.val) := by decide
  exact all ⟨n, control⟩

/-- Writing puts every character but the quote as it may stand. -/
theorem escaped_escapeChar (long : Bool) {c : Char} (no_quote : c ≠ '"') :
    Escaped long c (escapeChar long c) := by
  rw [escapeChar.eq_def]
  split
  case h_6 =>
    cases long with
    | false => exact .letter (by decide)
    | true => exact .bare (.inr ⟨rfl, rfl⟩) (by decide) (by decide)
  case h_7 _ no_tab _ _ no_backslash _ =>
    split
    case isTrue control =>
      have small : c.toNat < 128 := by
        simp only [Bool.or_eq_true, decide_eq_true_eq, beq_iff_eq] at control
        omega
      have code := hexChar?_upperHexDigit small
      rw [Char.ofNat_toNat] at code
      exact .code code
    case isFalse visible =>
      refine .bare (.inl ?_) no_quote no_backslash
      simp only [Bool.or_eq_true, decide_eq_true_eq, beq_iff_eq, not_or, Nat.not_lt] at visible
      simp [isPlain, visible]
  all_goals exact .letter (by decide)

/-- A quote is escaped by itself. -/
theorem escaped_quote (long : Bool) : Escaped long '"' ['\\', '"'] := .letter (by decide)

/-- What stands in front is no quote and no carriage return, and a line feed only as it is. -/
theorem Escaped.exists_cons {long : Bool} {c : Char} {chars : List Char}
    (written : Escaped long c chars) :
    ∃ first tail, chars = first :: tail ∧ first ≠ '"' ∧ first ≠ '\r' ∧
      (first = '\n' → c = '\n') := by
  cases written with
  | bare allowed no_quote _ =>
    refine ⟨c, [], rfl, no_quote, ?_, id⟩
    rintro rfl
    simp [isPlain] at allowed
  | letter | code =>
    have no_feed : '\\' ≠ '\n' := by decide
    exact ⟨_, _, rfl, by decide, by decide, fun feed => absurd feed no_feed⟩

section Readers

variable {c : Char} {chars : List Char}

/-- What a letter after a backslash is read as. It begins no number, and no break follows the
backslash. -/
theorem escape?_of_listed {letter : Char} (listed : (letter, c) ∈ escapeLetters)
    (rest : List Char) : escape? letter = some c ∧ letter ≠ 'x' ∧ letter ≠ 'u' ∧ letter ≠ 'U' ∧
      startsWithBreak (skipBlanks (letter :: rest)) = false := by
  simp only [escapeLetters, List.mem_cons, Prod.mk.injEq, List.not_mem_nil, or_false] at listed
  rcases listed with ⟨rfl, rfl⟩ | ⟨rfl, rfl⟩ | ⟨rfl, rfl⟩ | ⟨rfl, rfl⟩ | ⟨rfl, rfl⟩ | ⟨rfl, rfl⟩ |
    ⟨rfl, rfl⟩ <;>
  exact ⟨rfl, by decide, by decide, by decide, rfl⟩

/-- A character between quotes is read back. -/
theorem readBasic_append (written : Escaped false c chars) (rest : List Char) :
    readBasic (chars ++ rest) = consText c (readBasic rest) := by
  cases written with
  | bare allowed no_quote no_backslash =>
    have visible : isPlain c = true := allowed.resolve_right fun long => by cases long.1
    have step := readBasic.eq_7 c rest no_quote (fun _ _ _ h => absurd h no_backslash)
      (fun _ _ _ _ _ h => absurd h no_backslash) (fun _ _ _ _ _ _ _ _ _ h => absurd h no_backslash)
      (fun _ _ h => absurd h no_backslash)
    rw [if_pos (by simp [visible, no_backslash])] at step
    exact step
  | @letter letter listed =>
    obtain ⟨escaped, no_x, no_u, no_U, -⟩ := escape?_of_listed listed rest
    have step := readBasic.eq_6 letter rest (fun _ _ _ h => absurd h no_x)
      (fun _ _ _ _ _ h => absurd h no_u) (fun _ _ _ _ _ _ _ _ _ h => absurd h no_U)
    rw [escaped] at step
    exact step
  | @code first second third fourth code =>
    have step := readBasic.eq_4 first second third fourth rest
    rw [code] at step
    exact step

/-- A character between tripled quotes is read back. -/
theorem readLongBasic_append (written : Escaped true c chars) (rest : List Char) :
    readLongBasic false (chars ++ rest) = consText c (readLongBasic false rest) := by
  cases written with
  | bare allowed no_quote no_backslash =>
    have no_return : c ≠ '\r' := by
      rintro rfl
      simp [isPlain] at allowed
    have step := readLongBasic.eq_10 false c rest (fun _ h => absurd h no_quote)
      (fun _ h => absurd h no_quote) (fun _ h => absurd h no_quote)
      (fun _ _ _ h => absurd h no_backslash) (fun _ _ _ _ _ h => absurd h no_backslash)
      (fun _ _ _ _ _ _ _ _ _ h => absurd h no_backslash) (fun _ _ h => absurd h no_backslash)
      (fun _ h => absurd h no_return)
    have kept : (isPlain c && c != '\\' || c == '\n') = true := by
      rcases allowed with visible | ⟨-, rfl⟩
      · simp [visible, no_backslash]
      · rfl
    rw [Bool.false_and, if_neg Bool.false_ne_true, if_pos kept] at step
    exact step
  | @letter letter listed =>
    obtain ⟨escaped, no_x, no_u, no_U, no_break⟩ := escape?_of_listed listed rest
    have step := readLongBasic.eq_8 false letter rest (fun _ _ _ h => absurd h no_x)
      (fun _ _ _ _ _ h => absurd h no_u) (fun _ _ _ _ _ _ _ _ _ h => absurd h no_U)
    rw [no_break, if_neg Bool.false_ne_true, escaped] at step
    exact step
  | @code first second third fourth code =>
    have step := readLongBasic.eq_6 false first second third fourth rest
    rw [code] at step
    exact step

end Readers

/-- How a reader takes the marks that, tripled, end a text: up to two marks in a row belong to the
text, also right before the closing ones. -/
structure EndsAtMarks (mark : Char) (read : List Char → Option (List Char × List Char)) : Prop where
  /-- Marks right before the closing ones. -/
  closing : ∀ row rest, row ≤ 2 → rest.head? ≠ some mark →
    read (List.replicate row mark ++ mark :: mark :: mark :: rest) =
      some (List.replicate row mark, rest)
  /-- A mark that is not followed by two others. -/
  inner : ∀ tail, tail.take 2 ≠ [mark, mark] → read (mark :: tail) = consText mark (read tail)

section Marks

variable {mark : Char} {read : List Char → Option (List Char × List Char)}

/-- Up to two marks in front of something else belong to the text. -/
theorem EndsAtMarks.row (marks : EndsAtMarks mark read) {count : Nat} (few : count ≤ 2)
    {c : Char} (other : c ≠ mark) {tail text rest : List Char}
    (reads : read (c :: tail) = some (text, rest)) :
    read (List.replicate count mark ++ c :: tail) =
      some (List.replicate count mark ++ text, rest) := by
  match count with
  | 0 => exact reads
  | 1 =>
    have one := marks.inner (c :: tail) (by simp [other])
    rw [reads] at one
    exact one
  | 2 =>
    have one := marks.inner (c :: tail) (by simp [other])
    have two := marks.inner (mark :: c :: tail) (by simp [other])
    rw [one, reads] at two
    exact two

/-- Between tripled quotes, quotes are marks. -/
theorem endsAtMarks_readLongBasic : EndsAtMarks '"' (readLongBasic false) where
  closing row rest few ends := by
    have no_quote : ∀ more, rest ≠ '"' :: more := by
      rintro more rfl
      exact ends rfl
    match row with
    | 0 => exact readLongBasic.eq_4 false rest (fun _ => no_quote _) no_quote
    | 1 => exact readLongBasic.eq_3 false rest no_quote
    | 2 => exact readLongBasic.eq_2 false rest
  inner tail few := by
    have no_backslash : '"' ≠ '\\' := by decide
    have no_return : '"' ≠ '\r' := by decide
    exact readLongBasic.eq_10 false '"' tail (fun _ _ h => few (by rw [h]; rfl))
      (fun _ _ h => few (by rw [h]; rfl)) (fun _ _ h => few (by rw [h]; rfl))
      (fun _ _ _ h => absurd h no_backslash) (fun _ _ _ _ _ h => absurd h no_backslash)
      (fun _ _ _ _ _ _ _ _ _ h => absurd h no_backslash) (fun _ _ h => absurd h no_backslash)
      (fun _ h => absurd h no_return)

/-- Between tripled apostrophes, apostrophes are marks. -/
theorem endsAtMarks_readLongLiteral : EndsAtMarks '\'' readLongLiteral where
  closing row rest few ends := by
    have no_mark : ∀ more, rest ≠ '\'' :: more := by
      rintro more rfl
      exact ends rfl
    match row with
    | 0 => exact readLongLiteral.eq_4 rest (fun _ => no_mark _) no_mark
    | 1 => exact readLongLiteral.eq_3 rest no_mark
    | 2 => exact readLongLiteral.eq_2 rest
  inner tail few := by
    have no_return : '\'' ≠ '\r' := by decide
    exact readLongLiteral.eq_6 '\'' tail (fun _ _ h => few (by rw [h]; rfl))
      (fun _ _ h => few (by rw [h]; rfl)) (fun _ _ h => few (by rw [h]; rfl))
      (fun _ h => absurd h no_return)

end Marks

section Bodies

variable {text rest : List Char}

/-- What is written between quotes is read up to the closing quote. -/
theorem readBasic_escapeText (row : Nat) (text rest : List Char) :
    readBasic (escapeText false row text ++ '"' :: rest) = some (text, rest) := by
  induction text generalizing row with
  | nil => exact readBasic.eq_2 rest
  | cons c text ih =>
    rw [escapeText]
    split
    case isTrue quote =>
      have here := readBasic_append (escaped_quote false) (escapeText false 0 text ++ '"' :: rest)
      rw [ih] at here
      rw [if_pos (by simp), quote]
      exact here
    case isFalse other =>
      rw [List.append_assoc, readBasic_append (escaped_escapeChar false other), ih]
      rfl

/-- What is written between apostrophes is read up to the closing one. -/
theorem readLiteral_append (visible : ∀ c ∈ text, isPlain c = true) (no_mark : '\'' ∉ text) :
    readLiteral (text ++ '\'' :: rest) = some (text, rest) := by
  induction text with
  | nil => exact readLiteral.eq_2 rest
  | cons c text ih =>
    rw [List.forall_mem_cons] at visible
    rw [List.mem_cons, not_or] at no_mark
    have step := readLiteral.eq_3 c (text ++ '\'' :: rest) (Ne.symm no_mark.1)
    rw [if_pos visible.1, ih visible.2 no_mark.2] at step
    exact step

/-- What is written between tripled quotes is read up to the closing ones, with any quotes that
have just been written in front of it. -/
theorem readLongBasic_escapeText {row : Nat} (few : row ≤ 2) (text : List Char)
    (ends : rest.head? ≠ some '"') :
    readLongBasic false (List.replicate row '"' ++ (escapeText true row text ++
      '"' :: '"' :: '"' :: rest)) = some (List.replicate row '"' ++ text, rest) := by
  induction text generalizing row with
  | nil =>
    rw [List.append_nil]
    exact endsAtMarks_readLongBasic.closing row rest few ends
  | cons c text ih =>
    have later := ih (Nat.zero_le 2)
    rw [List.replicate_zero, List.nil_append, List.nil_append] at later
    rw [escapeText]
    split
    case isTrue quote =>
      subst quote
      rw [if_pos rfl]
      split
      case isTrue full =>
        -- The third quote in a row is escaped, and a new row begins after it.
        have here := readLongBasic_append (escaped_quote true)
          (escapeText true 0 text ++ '"' :: '"' :: '"' :: rest)
        rw [later] at here
        exact endsAtMarks_readLongBasic.row few (by decide) here
      case isFalse room =>
        have next := ih (Nat.succ_le_of_lt (Nat.lt_of_not_le room))
        rw [List.replicate_succ', List.append_assoc, List.append_assoc] at next
        exact next
    case isFalse other =>
      have here := readLongBasic_append (escaped_escapeChar true other)
        (escapeText true 0 text ++ '"' :: '"' :: '"' :: rest)
      rw [later] at here
      obtain ⟨first, tail, chars, no_quote, -⟩ := (escaped_escapeChar true other).exists_cons
      rw [chars] at here
      rw [List.append_assoc, chars]
      exact endsAtMarks_readLongBasic.row few no_quote here

/-- What is written between tripled apostrophes is read up to the closing ones, with any
apostrophes that have just been written in front of it. -/
theorem readLongLiteral_append {row : Nat} (visible : ∀ c ∈ text, needsEscape c = false)
    (few : longestRun '\'' row text ≤ 2) (ends : rest.head? ≠ some '\'') :
    readLongLiteral (List.replicate row '\'' ++ (text ++ '\'' :: '\'' :: '\'' :: rest)) =
      some (List.replicate row '\'' ++ text, rest) := by
  induction text generalizing row with
  | nil =>
    rw [List.append_nil]
    exact endsAtMarks_readLongLiteral.closing row rest few ends
  | cons c text ih =>
    obtain ⟨here, later⟩ := List.forall_mem_cons.mp visible
    rw [longestRun] at few
    split at few
    case isTrue mark =>
      have next := ih later few
      rw [List.replicate_succ', List.append_assoc, List.append_assoc] at next
      rw [mark]
      exact next
    case isFalse other =>
      have kept : (isPlain c || c == '\n') = true := by
        rw [needsEscape] at here
        cases plain : isPlain c <;> simp_all
      have no_return : c ≠ '\r' := by
        rintro rfl
        simp [isPlain] at kept
      have step := readLongLiteral.eq_6 c (text ++ '\'' :: '\'' :: '\'' :: rest)
        (fun _ h => absurd h other) (fun _ h => absurd h other) (fun _ h => absurd h other)
        (fun _ h => absurd h no_return)
      have next := ih later (Nat.le_trans (Nat.le_max_right row _) few)
      rw [List.replicate_zero, List.nil_append, List.nil_append] at next
      rw [if_pos kept, next] at step
      exact endsAtMarks_readLongLiteral.row (Nat.le_trans (Nat.le_max_left _ _) few) other step

end Bodies

section Forms

variable {text rest : List Char}

/-- A row of marks is at least as long as what has been met of it. -/
theorem le_longestRun (mark : Char) (current : Nat) (text : List Char) :
    current ≤ longestRun mark current text := by
  induction text generalizing current with
  | nil => exact Nat.le_refl _
  | cons c text ih =>
    rw [longestRun]
    split
    · exact Nat.le_trans (Nat.le_succ current) (ih (current + 1))
    · exact Nat.le_max_left _ _

/-- Without a row of marks there is no mark. -/
theorem not_mem_of_longestRun_eq_zero {mark : Char} {current : Nat}
    (none_there : longestRun mark current text = 0) : mark ∉ text := by
  induction text generalizing current with
  | nil => exact List.not_mem_nil
  | cons c text ih =>
    rw [longestRun] at none_there
    split at none_there
    case isTrue =>
      have one := le_longestRun mark (current + 1) text
      omega
    case isFalse other =>
      rw [List.mem_cons, not_or]
      exact ⟨Ne.symm other, ih (Nat.le_zero.mp (none_there ▸ Nat.le_max_right current _))⟩

/-- Whether a text can be read back from a form. Between quotes every text can, with escapes. -/
def Suits (text : List Char) : TextForm → Prop
  | .basic | .longBasic => True
  | .literal => (∀ c ∈ text, isPlain c = true) ∧ '\'' ∉ text
  | .longLiteral => (∀ c ∈ text, needsEscape c = false) ∧ longestRun '\'' 0 text ≤ 2

/-- A text suits the form in which it is written. -/
theorem suits_textForm (text : List Char) : Suits text (textForm text) := by
  simp only [textForm]
  split
  case isTrue => trivial
  split
  case isTrue allowed =>
    simp only [Bool.and_eq_true, Bool.not_eq_true', decide_eq_true_eq, List.any_eq_false,
      List.contains_eq_mem, decide_eq_false_iff_not] at allowed
    obtain ⟨⟨visible, none_there⟩, no_break⟩ := allowed
    refine ⟨fun c here => ?_, not_mem_of_longestRun_eq_zero none_there⟩
    have shown := visible c here
    have other : c ≠ '\n' := fun feed => no_break (feed ▸ here)
    simpa [needsEscape, other] using shown
  split
  case isTrue => trivial
  split
  case isTrue allowed =>
    simp only [Bool.and_eq_true, Bool.not_eq_true', decide_eq_true_eq, List.any_eq_false,
      Bool.not_eq_true] at allowed
    exact allowed
  split <;> trivial

/-- The line break after the opening marks is left out, and nothing else is: a text that spans no
lines does not begin with a break. -/
theorem dropBreak_openingBreak {first : Char} {body : List Char} (no_return : first ≠ '\r')
    (breaks : first = '\n' → '\n' ∈ text) :
    dropBreak (openingBreak text ++ first :: body) = first :: body := by
  rw [openingBreak]
  split
  case isTrue => rfl
  case isFalse closed =>
    have no_feed : first ≠ '\n' := fun feed => closed (List.contains_iff_mem.mpr (breaks feed))
    exact dropBreak.eq_3 _ (fun _ h => no_feed (List.cons.inj h).1)
      (fun _ h => no_return (List.cons.inj h).1)

/-- A text between tripled quotes is read back. -/
theorem readText_longBasic (text : List Char) (ends : rest.head? ≠ some '"') :
    readText ('"' :: '"' :: '"' :: (openingBreak text ++ (escapeText true 0 text ++
      '"' :: '"' :: '"' :: rest))) = some (text, rest) := by
  have opened : ∃ first body, escapeText true 0 text ++ '"' :: '"' :: '"' :: rest =
      first :: body ∧ first ≠ '\r' ∧ (first = '\n' → '\n' ∈ text) := by
    cases text with
    | nil => exact ⟨'"', _, rfl, by decide, by decide⟩
    | cons c text =>
      rw [escapeText]
      split
      case isTrue quote =>
        have no_feed : '"' ≠ '\n' := by decide
        exact ⟨'"', _, rfl, by decide, fun feed => absurd feed no_feed⟩
      case isFalse other =>
        obtain ⟨first, tail, chars, -, no_return, feed⟩ :=
          (escaped_escapeChar true other).exists_cons
        rw [chars]
        exact ⟨first, _, rfl, no_return, fun h => feed h ▸ List.mem_cons_self⟩
  have read := readLongBasic_escapeText (Nat.zero_le 2) text ends
  rw [List.replicate_zero, List.nil_append, List.nil_append] at read
  obtain ⟨first, body, source, no_return, breaks⟩ := opened
  rw [source] at read ⊢
  rw [readText, dropBreak_openingBreak no_return breaks, read]

/-- A text between tripled apostrophes is read back. -/
theorem readText_longLiteral (suits : Suits text .longLiteral)
    (ends : rest.head? ≠ some '\'') :
    readText ('\'' :: '\'' :: '\'' :: (openingBreak text ++ (text ++
      '\'' :: '\'' :: '\'' :: rest))) = some (text, rest) := by
  obtain ⟨visible, few⟩ := suits
  have opened : ∃ first body, text ++ '\'' :: '\'' :: '\'' :: rest = first :: body ∧
      first ≠ '\r' ∧ (first = '\n' → '\n' ∈ text) := by
    cases text with
    | nil => exact ⟨'\'', _, rfl, by decide, by decide⟩
    | cons c text =>
      refine ⟨c, _, rfl, ?_, fun feed => feed ▸ List.mem_cons_self⟩
      rintro rfl
      exact absurd (visible '\r' List.mem_cons_self) (by decide)
  have read := readLongLiteral_append visible few ends
  rw [List.replicate_zero, List.nil_append, List.nil_append] at read
  obtain ⟨first, body, source, no_return, breaks⟩ := opened
  rw [source] at read ⊢
  rw [readText, dropBreak_openingBreak no_return breaks, read]

/-- A text between quotes is read back. -/
theorem readText_basic (text : List Char) (ends : rest.head? ≠ some '"') :
    readText ('"' :: (escapeText false 0 text ++ '"' :: rest)) = some (text, rest) := by
  have single : ∀ more, escapeText false 0 text ++ '"' :: rest ≠ '"' :: '"' :: more := by
    intro more source
    cases text with
    | nil =>
      obtain rfl := (List.cons.inj source).2
      exact ends rfl
    | cons c text =>
      rw [escapeText] at source
      split at source
      case isTrue quote =>
        rw [if_pos (by simp)] at source
        exact absurd (List.cons.inj source).1 (by decide)
      case isFalse other =>
        obtain ⟨first, tail, chars, no_quote, -⟩ := (escaped_escapeChar false other).exists_cons
        rw [chars] at source
        exact no_quote (List.cons.inj source).1
  rw [readText.eq_3 _ (fun more h => single more (List.cons.inj h).2)
    (fun _ h => absurd (List.cons.inj h).1 (by decide)), readShort]
  exact readBasic_escapeText 0 text rest

/-- A text between apostrophes is read back. -/
theorem readText_literal (suits : Suits text .literal) (ends : rest.head? ≠ some '\'') :
    readText ('\'' :: (text ++ '\'' :: rest)) = some (text, rest) := by
  obtain ⟨visible, no_mark⟩ := suits
  have single : ∀ more, text ++ '\'' :: rest ≠ '\'' :: '\'' :: more := by
    intro more source
    cases text with
    | nil =>
      obtain rfl := (List.cons.inj source).2
      exact ends rfl
    | cons c text => exact no_mark ((List.cons.inj source).1 ▸ List.mem_cons_self)
  rw [readText.eq_3 _ (fun _ h => absurd (List.cons.inj h).1 (by decide))
    (fun more h => single more (List.cons.inj h).2), readShort]
  exact readLiteral_append visible no_mark

/-- A text is read back from the form in which it is written, whatever follows it but another quote
or apostrophe. -/
theorem readText_writeText (text : List Char) (quote : rest.head? ≠ some '"')
    (apostrophe : rest.head? ≠ some '\'') :
    readText (writeText text ++ rest) = some (text, rest) := by
  have suits := suits_textForm text
  rw [writeText]
  generalize textForm text = form at suits ⊢
  cases form with
  | basic =>
    have source : '"' :: escapeText false 0 text ++ ['"'] ++ rest =
        '"' :: (escapeText false 0 text ++ '"' :: rest) := by
      simp
    rw [source, readText_basic text quote]
  | literal =>
    have source : '\'' :: text ++ ['\''] ++ rest = '\'' :: (text ++ '\'' :: rest) := by
      simp
    rw [source, readText_literal suits apostrophe]
  | longBasic =>
    have source : ['"', '"', '"'] ++ openingBreak text ++ escapeText true 0 text ++
        ['"', '"', '"'] ++ rest = '"' :: '"' :: '"' :: (openingBreak text ++
          (escapeText true 0 text ++ '"' :: '"' :: '"' :: rest)) := by
      simp
    rw [source, readText_longBasic text quote]
  | longLiteral =>
    have source : ['\'', '\'', '\''] ++ openingBreak text ++ text ++ ['\'', '\'', '\''] ++ rest =
        '\'' :: '\'' :: '\'' :: (openingBreak text ++ (text ++ '\'' :: '\'' :: '\'' :: rest)) := by
      simp
    rw [source, readText_longLiteral suits apostrophe]

end Forms

end MessageContracts.Toml
