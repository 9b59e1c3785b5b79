import MessageContracts.Text.Characters

/-!
# Text in JSON

A text stands between quotes. Quotes, backslashes and control characters are escaped, either by a
letter or by the number of a UTF-16 unit. A text whose escapes or bytes do not amount to characters
can be passed over, but it has no value.
-/

namespace MessageContracts.Json

open Text (Scalar)

/-- A piece of a quoted text. -/
inductive Piece where
  /-- A character. -/
  | char (c : Char)
  /-- A UTF-16 unit written by its number. -/
  | unit (code : Nat)
  /-- A byte that belongs to no character. -/
  | stray
deriving DecidableEq, Repr

/-- The value of a hexadecimal digit, of which a stray byte has none. -/
def hexDigit? (digit : Scalar) : Option Nat := digit.bind Text.hexDigit?

/-- The value of four hexadecimal digits. -/
def hexUnit? (a b c d : Scalar) : Option Nat := do
  some ((((← hexDigit? a) * 16 + (← hexDigit? b)) * 16 + (← hexDigit? c)) * 16 + (← hexDigit? d))

/-- The character that a letter stands for after a backslash. -/
def escape? : Char → Option Char
  | '"' => some '"'
  | '\\' => some '\\'
  | '/' => some '/'
  | 'b' => some '\x08'
  | 'f' => some '\x0c'
  | 'n' => some '\n'
  | 'r' => some '\r'
  | 't' => some '\t'
  | _ => none

/-- The pieces up to the closing quote, and what follows it. -/
def readPieces : List Scalar → Option (List Piece × List Scalar)
  | [] => none
  | some '"' :: rest => some ([], rest)
  | some '\\' :: some 'u' :: a :: b :: c :: d :: rest => do
    let code ← hexUnit? a b c d
    let (pieces, rest) ← readPieces rest
    some (.unit code :: pieces, rest)
  | some '\\' :: some letter :: rest => do
    let c ← escape? letter
    let (pieces, rest) ← readPieces rest
    some (.char c :: pieces, rest)
  | some '\\' :: _ => none
  | some c :: rest =>
    if c.toNat < 0x20 then none
    else do
      let (pieces, rest) ← readPieces rest
      some (.char c :: pieces, rest)
  | none :: rest => do
    let (pieces, rest) ← readPieces rest
    some (.stray :: pieces, rest)

/-- Whether the unit is the first half of a pair. -/
def isHighHalf (code : Nat) : Bool := 0xD800 ≤ code && code < 0xDC00

/-- Whether the unit is the second half of a pair. -/
def isLowHalf (code : Nat) : Bool := 0xDC00 ≤ code && code < 0xE000

/-- The characters that the pieces amount to; a lone half of a pair amounts to none. -/
def joinPieces : List Piece → Option (List Char)
  | [] => some []
  | .char c :: rest => (c :: ·) <$> joinPieces rest
  | .stray :: _ => none
  | .unit high :: .unit low :: rest =>
    if isHighHalf high then
      if isLowHalf low then
        (Char.ofNat (0x10000 + (high - 0xD800) * 0x400 + (low - 0xDC00)) :: ·) <$> joinPieces rest
      else none
    else if isLowHalf high then none
    else (Char.ofNat high :: ·) <$> joinPieces (.unit low :: rest)
  | .unit code :: rest =>
    if isHighHalf code || isLowHalf code then none
    else (Char.ofNat code :: ·) <$> joinPieces rest

/-- The text after an opening quote, absent if it has no value, and what follows it. -/
def readText (source : List Scalar) : Option (Option String × List Scalar) := do
  let (pieces, rest) ← readPieces source
  some (String.ofList <$> joinPieces pieces, rest)

/-- A hexadecimal digit. -/
def hexDigit (n : Nat) : Char := if n < 10 then Char.ofNat (n + 48) else Char.ofNat (n + 87)

/-- A character of a quoted text. -/
def escapeChar (c : Char) : List Char :=
  match c with
  | '"' => ['\\', '"']
  | '\\' => ['\\', '\\']
  | '\x08' => ['\\', 'b']
  | '\x0c' => ['\\', 'f']
  | '\n' => ['\\', 'n']
  | '\r' => ['\\', 'r']
  | '\t' => ['\\', 't']
  | _ =>
    if c.toNat < 0x20 then ['\\', 'u', '0', '0', hexDigit (c.toNat / 16), hexDigit (c.toNat % 16)]
    else [c]

/-- The text between quotes. -/
def quote (text : String) : List Char := '"' :: text.toList.flatMap escapeChar ++ ['"']

end MessageContracts.Json
