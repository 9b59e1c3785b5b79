/-!
# Characters and bytes

A character can be written by its number in hexadecimal digits of either case. The blanks of a text
are the characters that Unicode calls white space. A document of bytes is read as a row of
characters in UTF-8; a byte that belongs to no character keeps its place, so that faults in
different places of a document stay apart. And a piece of a text can be named by the bytes at which
it starts and ends, if neither end lies inside a character.
-/

namespace MessageContracts.Text

/-- The value of a hexadecimal digit. -/
def hexDigit? (c : Char) : Option Nat :=
  if c.isDigit then some (c.toNat - '0'.toNat)
  else if 'a' ≤ c ∧ c ≤ 'f' then some (c.toNat - 'a'.toNat + 10)
  else if 'A' ≤ c ∧ c ≤ 'F' then some (c.toNat - 'A'.toNat + 10)
  else none

/-- The character whose number is written in these hexadecimal digits. -/
def hexChar? (digits : List Char) : Option Char := do
  let values ← digits.mapM hexDigit?
  let code := values.foldl (fun code value => code * 16 + value) 0
  if code.isValidChar then some (Char.ofNat code) else none

/-- The blank code points, as closed ranges in ascending order. -/
def blankRanges : List (Nat × Nat) := [
  (0x9, 0xD), (0x20, 0x20), (0x85, 0x85), (0xA0, 0xA0), (0x1680, 0x1680), (0x2000, 0x200A),
  (0x2028, 0x2029), (0x202F, 0x202F), (0x205F, 0x205F), (0x3000, 0x3000)]

/-- Whether the character is a blank. -/
def isBlank (c : Char) : Bool :=
  blankRanges.any fun range => range.1 ≤ c.toNat && c.toNat ≤ range.2

/-- The characters without the blanks at both ends. -/
def trimmed (text : List Char) : List Char :=
  ((text.dropWhile isBlank).reverse.dropWhile isBlank).reverse

/-- A character of a document, or nothing for a byte that belongs to no character. -/
abbrev Scalar := Option Char

/-- The characters from byte `position` on. -/
def scalarsFrom (bytes : ByteArray) (position : Nat) : List Scalar :=
  if position < bytes.size then
    match bytes.utf8DecodeChar? position with
    | some c => some c :: scalarsFrom bytes (position + c.utf8Size)
    | none => none :: scalarsFrom bytes (position + 1)
  else []
termination_by bytes.size - position
decreasing_by
  · have := c.utf8Size_pos
    omega
  · omega

/-- The characters of a document. -/
def scalars (bytes : ByteArray) : List Scalar := scalarsFrom bytes 0

/-- The characters up to so many bytes. -/
def takeBytes? : Nat → List Char → Option (List Char)
  | 0, _ => some []
  | _ + 1, [] => none
  | count + 1, c :: rest =>
    if c.utf8Size ≤ count + 1 then (takeBytes? (count + 1 - c.utf8Size) rest).map (c :: ·)
    else none

/-- The characters from so many bytes on. -/
def dropBytes? : Nat → List Char → Option (List Char)
  | 0, text => some text
  | _ + 1, [] => none
  | count + 1, c :: rest =>
    if c.utf8Size ≤ count + 1 then dropBytes? (count + 1 - c.utf8Size) rest else none

/-- The characters between two bytes. -/
def between? (first last : Nat) (text : List Char) : Option (List Char) :=
  dropBytes? first text >>= takeBytes? (last - first)

end MessageContracts.Text
