import MessageContracts.Json.Text

/-!
# The grammar of quoted texts

Between quotes, a text is a row of pieces, and there are several ways to write one character: by
itself, by a letter behind a backslash, by the number of a UTF-16 unit, or by the numbers of two. A
quoted text that is written by these rules is read as the pieces it is made of, whatever follows it,
and every text is written by these rules.
-/

namespace MessageContracts.Json

open Text (Scalar)

/-- Whether a character is the hexadecimal digit of a value, in either case. -/
def IsHexDigit (c : Char) (value : Nat) : Prop :=
  "0123456789abcdef".toList[value]? = some c ∨ "0123456789ABCDEF".toList[value]? = some c

/-- The letters that stand for a character behind a backslash, each with the character. -/
def letterEscapes : List (Char × Char) := [('"', '"'), ('\\', '\\'), ('/', '/'), ('b', '\x08'),
  ('f', '\x0c'), ('n', '\n'), ('r', '\r'), ('t', '\t')]

/-- How a piece of a quoted text is written. A byte that belongs to no character never is. -/
inductive PieceText : Piece → List Char → Prop where
  /-- A character by itself, unless it is a control character, a quote or a backslash. -/
  | plain {c : Char} (visible : 0x20 ≤ c.toNat) (no_quote : c ≠ '"') (no_backslash : c ≠ '\\') :
    PieceText (.char c) [c]
  /-- A character by its letter. -/
  | letter {letter c : Char} (listed : (letter, c) ∈ letterEscapes) :
    PieceText (.char c) ['\\', letter]
  /-- A unit by its number in four hexadecimal digits. -/
  | unit {a b c d : Char} {first second third fourth : Nat} (highest : IsHexDigit a first)
    (high : IsHexDigit b second) (low : IsHexDigit c third) (lowest : IsHexDigit d fourth) :
    PieceText (.unit (((first * 16 + second) * 16 + third) * 16 + fourth)) ['\\', 'u', a, b, c, d]

/-- How pieces are written one after the other. -/
inductive PiecesText : List Piece → List Char → Prop where
  /-- No piece. -/
  | nil : PiecesText [] []
  /-- A piece, then more. -/
  | cons {piece : Piece} {rest : List Piece} {chars more : List Char}
    (first : PieceText piece chars) (later : PiecesText rest more) :
    PiecesText (piece :: rest) (chars ++ more)

/-- The characters that pieces amount to. A unit that is half of a pair amounts to a character only
together with its other half. -/
inductive Amounts : List Piece → List Char → Prop where
  /-- No piece. -/
  | nil : Amounts [] []
  /-- A character. -/
  | char {c : Char} {rest : List Piece} {chars : List Char} (later : Amounts rest chars) :
    Amounts (.char c :: rest) (c :: chars)
  /-- A unit that is not half of a pair. -/
  | unit {code : Nat} {rest : List Piece} {chars : List Char}
    (whole : code < 0xD800 ∨ 0xDFFF < code) (later : Amounts rest chars) :
    Amounts (.unit code :: rest) (Char.ofNat code :: chars)
  /-- Both halves of a pair. -/
  | pair {high low : Nat} {rest : List Piece} {chars : List Char}
    (first : 0xD800 ≤ high ∧ high ≤ 0xDBFF) (second : 0xDC00 ≤ low ∧ low ≤ 0xDFFF)
    (later : Amounts rest chars) :
    Amounts (.unit high :: .unit low :: rest)
      (Char.ofNat (0x10000 + (high - 0xD800) * 0x400 + (low - 0xDC00)) :: chars)

/-- A quoted text with these pieces. -/
def Quoted (pieces : List Piece) (chars : List Char) : Prop :=
  ∃ inside, PiecesText pieces inside ∧ chars = '"' :: inside ++ ['"']

/-- One of the ways to write a text. -/
def Spelling (text : String) (chars : List Char) : Prop :=
  ∃ pieces, Quoted pieces chars ∧ Amounts pieces text.toList

section Reading

variable {piece : Piece} {pieces : List Piece} {chars : List Char} {rest : List Scalar}

/-- A hexadecimal digit is read as its value. -/
theorem hexDigit?_of_isHexDigit {c : Char} {value : Nat} (digit : IsHexDigit c value) :
    hexDigit? (some c) = some value := by
  have lower : ∀ n : Fin 16, hexDigit? (some "0123456789abcdef".toList[n]) = some n.val := by
    decide
  have upper : ∀ n : Fin 16, hexDigit? (some "0123456789ABCDEF".toList[n]) = some n.val := by
    decide
  rcases digit with digit | digit
  · obtain ⟨bound, rfl⟩ := List.getElem?_eq_some_iff.mp digit
    exact lower ⟨value, bound⟩
  · obtain ⟨bound, rfl⟩ := List.getElem?_eq_some_iff.mp digit
    exact upper ⟨value, bound⟩

/-- A letter behind a backslash is read as its character, and is never the mark of a unit. -/
theorem escape?_of_listed {letter c : Char} (listed : (letter, c) ∈ letterEscapes) :
    escape? letter = some c ∧ letter ≠ 'u' := by
  have all : ∀ entry ∈ letterEscapes, escape? entry.1 = some entry.2 ∧ entry.1 ≠ 'u' := by decide
  exact all _ listed

/-- A piece is read first, and then whatever is behind it. -/
theorem readPieces_append (written : PieceText piece chars) :
    readPieces (chars.map some ++ rest) =
      (readPieces rest).map fun (later, rest) => (piece :: later, rest) := by
  cases written with
  | @plain c visible no_quote no_backslash =>
    have printable : ¬c.toNat < 0x20 := Nat.not_lt.mpr visible
    have step := readPieces.eq_6 c rest no_quote (fun _ _ _ _ _ _ => no_backslash)
      (fun _ _ _ => no_backslash) no_backslash
    rw [if_neg printable] at step
    refine step.trans ?_
    cases readPieces rest <;> rfl
  | @letter letter c listed =>
    obtain ⟨escaped, no_unit⟩ := escape?_of_listed listed
    have step := readPieces.eq_4 letter rest fun _ _ _ _ _ _ => no_unit
    rw [escaped] at step
    refine step.trans ?_
    cases readPieces rest <;> rfl
  | @unit a b c d first second third fourth highest high low lowest =>
    have code : hexUnit? (some a) (some b) (some c) (some d) =
        some (((first * 16 + second) * 16 + third) * 16 + fourth) := by
      rw [hexUnit?, hexDigit?_of_isHexDigit highest, hexDigit?_of_isHexDigit high,
        hexDigit?_of_isHexDigit low, hexDigit?_of_isHexDigit lowest]
      rfl
    have step := readPieces.eq_3 (some a) (some b) (some c) (some d) rest
    rw [code] at step
    refine step.trans ?_
    cases readPieces rest <;> rfl

/-- Pieces are read up to the quote that follows them. -/
theorem readPieces_of_piecesText (written : PiecesText pieces chars) :
    readPieces (chars.map some ++ some '"' :: rest) = some (pieces, rest) := by
  induction written with
  | nil => exact readPieces.eq_2 rest
  | cons first later ih => rw [List.map_append, List.append_assoc, readPieces_append first, ih]; rfl

/-- Pieces amount to the characters that they are joined to. -/
theorem joinPieces_of_amounts {joined : List Char} (amounts : Amounts pieces joined) :
    joinPieces pieces = some joined := by
  induction amounts with
  | nil => rfl
  | char later ih => rw [joinPieces, ih]; rfl
  | @unit code rest chars whole later ih =>
    have no_high : isHighHalf code = false := by
      simp only [isHighHalf, Bool.and_eq_false_imp, decide_eq_true_eq, decide_eq_false_iff_not]
      omega
    have no_low : isLowHalf code = false := by
      simp only [isLowHalf, Bool.and_eq_false_imp, decide_eq_true_eq, decide_eq_false_iff_not]
      omega
    match rest with
    | [] | .char _ :: _ | .stray :: _ =>
      rw [joinPieces.eq_5 code _ (by simp), no_high, no_low, ih]
      rfl
    | .unit low :: rest =>
      rw [joinPieces.eq_4, no_high, no_low, ih]
      rfl
  | @pair high low rest chars first second later ih =>
    have is_high : isHighHalf high = true := by
      simp only [isHighHalf, Bool.and_eq_true, decide_eq_true_eq]
      omega
    have is_low : isLowHalf low = true := by
      simp only [isLowHalf, Bool.and_eq_true, decide_eq_true_eq]
      omega
    rw [joinPieces.eq_4, if_pos is_high, if_pos is_low, ih]
    rfl

/-- What is written between quotes is read up to the closing quote. -/
theorem readText_of_piecesText (written : PiecesText pieces chars) :
    readText (chars.map some ++ some '"' :: rest) =
      some (String.ofList <$> joinPieces pieces, rest) := by
  rw [readText, readPieces_of_piecesText written]
  rfl

end Reading

section Writing

/-- A hexadecimal digit is written as one. -/
theorem isHexDigit_hexDigit {value : Nat} (bound : value < 16) :
    IsHexDigit (hexDigit value) value := by
  have all : ∀ n : Fin 16, "0123456789abcdef".toList[n.val]? = some (hexDigit n.val) := by decide
  exact .inl (all ⟨value, bound⟩)

/-- A character is written as a piece that amounts to it. -/
theorem exists_pieceText_escapeChar (c : Char) :
    ∃ piece, PieceText piece (escapeChar c) ∧
      ∀ rest chars, Amounts rest chars → Amounts (piece :: rest) (c :: chars) := by
  rw [escapeChar.eq_def]
  split
  case h_8 no_quote no_backslash _ _ _ _ _ =>
    by_cases control : c.toNat < 0x20
    · have high : c.toNat / 16 < 16 := by omega
      have low : c.toNat % 16 < 16 := by omega
      have code : ((0 * 16 + 0) * 16 + c.toNat / 16) * 16 + c.toNat % 16 = c.toNat := by omega
      have zero : IsHexDigit '0' 0 := .inl (by decide)
      have written := PieceText.unit zero zero (isHexDigit_hexDigit high)
        (isHexDigit_hexDigit low)
      rw [code] at written
      rw [if_pos control]
      refine ⟨_, written, fun rest chars later => ?_⟩
      have amounts : Amounts (.unit c.toNat :: rest) (Char.ofNat c.toNat :: chars) :=
        .unit (.inl (by omega)) later
      rw [Char.ofNat_toNat] at amounts
      exact amounts
    · rw [if_neg control]
      exact ⟨_, .plain (Nat.not_lt.mp control) no_quote no_backslash, fun _ _ => .char⟩
  all_goals exact ⟨_, .letter (by decide), fun _ _ => .char⟩

/-- Characters are written as pieces that amount to them. -/
theorem exists_piecesText_flatMap (chars : List Char) :
    ∃ pieces, PiecesText pieces (chars.flatMap escapeChar) ∧ Amounts pieces chars := by
  induction chars with
  | nil => exact ⟨[], .nil, .nil⟩
  | cons c rest ih =>
    obtain ⟨piece, written, amounts⟩ := exists_pieceText_escapeChar c
    obtain ⟨pieces, later, behind⟩ := ih
    exact ⟨piece :: pieces, .cons written later, amounts _ _ behind⟩

/-- A quoted text is one way to write the text. -/
theorem spelling_quote (text : String) : Spelling text (quote text) := by
  obtain ⟨pieces, written, amounts⟩ := exists_piecesText_flatMap text.toList
  exact ⟨pieces, ⟨_, written, rfl⟩, amounts⟩

end Writing

end MessageContracts.Json
