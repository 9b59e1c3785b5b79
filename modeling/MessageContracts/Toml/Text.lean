import MessageContracts.Text.Characters

/-!
# Text in TOML

A text is written in one of four forms: between quotes with escapes, between apostrophes as it
stands, and either of them between tripled marks, where it may span lines. A line break right
after the opening marks does not belong to the text, and a backslash at the end of a line removes
the line break and all blanks after it.
-/

namespace MessageContracts.Toml

/-- Whether a character may stand in a text or comment as it is: no control character but the
tab. -/
def isPlain (c : Char) : Bool := c == '\t' || (0x20 ≤ c.toNat && c.toNat != 0x7F)

/-- The blanks within a line. -/
def isBlank (c : Char) : Bool := c == ' ' || c == '\t'

/-- The source without the blanks at its front. -/
def skipBlanks (source : List Char) : List Char := source.dropWhile isBlank

/-- Whether the source starts with a line break. -/
def startsWithBreak : List Char → Bool
  | '\n' :: _ => true
  | '\r' :: '\n' :: _ => true
  | _ => false

/-- The source without a line break at its front. -/
def dropBreak : List Char → List Char
  | '\n' :: rest => rest
  | '\r' :: '\n' :: rest => rest
  | rest => rest

/-- The character that a letter stands for after a backslash. -/
def escape? : Char → Option Char
  | '"' => some '"'
  | '\\' => some '\\'
  | 'b' => some '\x08'
  | 't' => some '\t'
  | 'n' => some '\n'
  | 'f' => some '\x0c'
  | 'r' => some '\r'
  | 'e' => some '\x1b'
  | _ => none

/-- Put a character in front of a text that has been read. -/
def consText (c : Char) (tail : Option (List Char × List Char)) : Option (List Char × List Char) :=
  tail.map fun (text, rest) => (c :: text, rest)

/-- A text after an opening quote, and what follows it. -/
def readBasic : List Char → Option (List Char × List Char)
  | [] => none
  | '"' :: rest => some ([], rest)
  | '\\' :: 'x' :: a :: b :: rest => do consText (← Text.hexChar? [a, b]) (readBasic rest)
  | '\\' :: 'u' :: a :: b :: c :: d :: rest => do
    consText (← Text.hexChar? [a, b, c, d]) (readBasic rest)
  | '\\' :: 'U' :: a :: b :: c :: d :: e :: f :: g :: h :: rest => do
    consText (← Text.hexChar? [a, b, c, d, e, f, g, h]) (readBasic rest)
  | '\\' :: letter :: rest => do consText (← escape? letter) (readBasic rest)
  | c :: rest => if isPlain c && c != '\\' then consText c (readBasic rest) else none

/-- A text after an opening apostrophe, and what follows it. -/
def readLiteral : List Char → Option (List Char × List Char)
  | [] => none
  | '\'' :: rest => some ([], rest)
  | c :: rest => if isPlain c then consText c (readLiteral rest) else none

/-- A text after three opening quotes and their line break, and what follows it. While `skipping`,
blanks and line breaks are left out. Up to two quotes right before the closing ones belong to the
text. -/
def readLongBasic : Bool → List Char → Option (List Char × List Char)
  | _, [] => none
  | _, '"' :: '"' :: '"' :: '"' :: '"' :: rest => some (['"', '"'], rest)
  | _, '"' :: '"' :: '"' :: '"' :: rest => some (['"'], rest)
  | _, '"' :: '"' :: '"' :: rest => some ([], rest)
  | _, '\\' :: 'x' :: a :: b :: rest => do
    consText (← Text.hexChar? [a, b]) (readLongBasic false rest)
  | _, '\\' :: 'u' :: a :: b :: c :: d :: rest => do
    consText (← Text.hexChar? [a, b, c, d]) (readLongBasic false rest)
  | _, '\\' :: 'U' :: a :: b :: c :: d :: e :: f :: g :: h :: rest => do
    consText (← Text.hexChar? [a, b, c, d, e, f, g, h]) (readLongBasic false rest)
  | _, '\\' :: c :: rest =>
    if startsWithBreak (skipBlanks (c :: rest)) then readLongBasic true (c :: rest)
    else do consText (← escape? c) (readLongBasic false rest)
  | skipping, '\r' :: '\n' :: rest =>
    if skipping then readLongBasic true rest
    else consText '\r' (consText '\n' (readLongBasic false rest))
  | skipping, c :: rest =>
    if skipping && (isBlank c || c == '\n') then readLongBasic true rest
    else if (isPlain c && c != '\\') || c == '\n' then consText c (readLongBasic false rest)
    else none

/-- A text after three opening apostrophes and their line break, and what follows it. Up to two
apostrophes right before the closing ones belong to the text. -/
def readLongLiteral : List Char → Option (List Char × List Char)
  | [] => none
  | '\'' :: '\'' :: '\'' :: '\'' :: '\'' :: rest => some (['\'', '\''], rest)
  | '\'' :: '\'' :: '\'' :: '\'' :: rest => some (['\''], rest)
  | '\'' :: '\'' :: '\'' :: rest => some ([], rest)
  | '\r' :: '\n' :: rest => consText '\r' (consText '\n' (readLongLiteral rest))
  | c :: rest =>
    if isPlain c || c == '\n' then consText c (readLongLiteral rest) else none

/-- A text on one line, and what follows it. -/
def readShort : List Char → Option (List Char × List Char)
  | '"' :: rest => readBasic rest
  | '\'' :: rest => readLiteral rest
  | _ => none

/-- A text in any form, and what follows it. -/
def readText : List Char → Option (List Char × List Char)
  | '"' :: '"' :: '"' :: rest => readLongBasic false (dropBreak rest)
  | '\'' :: '\'' :: '\'' :: rest => readLongLiteral (dropBreak rest)
  | source => readShort source

/-! ## Writing -/

/-- The forms in which a text may be written. -/
inductive TextForm where
  /-- Between quotes. -/
  | basic
  /-- Between apostrophes. -/
  | literal
  /-- Between tripled quotes. -/
  | longBasic
  /-- Between tripled apostrophes. -/
  | longLiteral
deriving DecidableEq, Repr

/-- Whether a character can be written in no form but by an escape. -/
def needsEscape (c : Char) : Bool := !isPlain c && c != '\n'

/-- The greatest number of neighbouring occurrences; `current` have just been met. -/
def longestRun (mark : Char) : Nat → List Char → Nat
  | current, [] => current
  | current, c :: rest =>
    if c = mark then longestRun mark (current + 1) rest
    else max current (longestRun mark 0 rest)

/-- The form in which a text is written: the first that needs no escape, in the order short before
long and quotes before apostrophes, or else quotes with escapes. -/
def textForm (text : List Char) : TextForm :=
  let control := text.any needsEscape
  let backslash := text.contains '\\'
  let spansLines := text.contains '\n'
  let quotes := longestRun '"' 0 text
  let apostrophes := longestRun '\'' 0 text
  if !control && !backslash && quotes = 0 && !spansLines then .basic
  else if !control && apostrophes = 0 && !spansLines then .literal
  else if !control && !backslash && quotes ≤ 2 then .longBasic
  else if !control && apostrophes ≤ 2 then .longLiteral
  else if spansLines then .longBasic
  else .basic

/-- A hexadecimal digit in upper case. -/
def upperHexDigit (n : Nat) : Char := if n < 10 then Char.ofNat (n + 48) else Char.ofNat (n + 55)

/-- A character other than the quote in a text between quotes. -/
def escapeChar (long : Bool) (c : Char) : List Char :=
  match c with
  | '\x08' => ['\\', 'b']
  | '\t' => ['\\', 't']
  | '\x0c' => ['\\', 'f']
  | '\r' => ['\\', 'r']
  | '\\' => ['\\', '\\']
  | '\n' => if long then ['\n'] else ['\\', 'n']
  | _ =>
    if c.toNat < 0x20 || c.toNat == 0x7F then
      ['\\', 'u', '0', '0', upperHexDigit (c.toNat / 16), upperHexDigit (c.toNat % 16)]
    else [c]

/-- The body of a text between quotes. A short body escapes every quote, a long one each third of
a row; `row` quotes have just been written. -/
def escapeText (long : Bool) : Nat → List Char → List Char
  | _, [] => []
  | row, c :: rest =>
    if c = '"' then
      if (if long then 2 else 0) ≤ row then '\\' :: '"' :: escapeText long 0 rest
      else '"' :: escapeText long (row + 1) rest
    else escapeChar long c ++ escapeText long 0 rest

/-- The line break after tripled marks, for a text that spans lines. -/
def openingBreak (text : List Char) : List Char := if text.contains '\n' then ['\n'] else []

/-- A text as it is written. -/
def writeText (text : List Char) : List Char :=
  match textForm text with
  | .basic => '"' :: escapeText false 0 text ++ ['"']
  | .literal => '\'' :: text ++ ['\'']
  | .longBasic =>
    ['"', '"', '"'] ++ openingBreak text ++ escapeText true 0 text ++ ['"', '"', '"']
  | .longLiteral => ['\'', '\'', '\''] ++ openingBreak text ++ text ++ ['\'', '\'', '\'']

end MessageContracts.Toml
