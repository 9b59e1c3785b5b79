import MessageContracts.Toml.Text
import MessageContracts.Toml.Value

/-!
# Numbers, truth values and dates in TOML

A bare scalar is a word. Underscores may stand between two digits of a number, a whole part has no
leading zero, and a date or time has to exist. A word that goes on after digits and an underscore
counts as an integer whatever follows, and so does the mark of a base without digits: what such a
word stands for is asked only when it is visited, and no number is held for it.
-/

namespace MessageContracts.Toml

/-- Whether a character may belong to a bare scalar. -/
def isWordChar (c : Char) : Bool :=
  !(['=', ',', '[', ']', '{', '}', '#', ' ', '\t', '\n', '\r'].contains c)

/-- The value of a digit to some base. -/
def digitTo? (base : Nat) (c : Char) : Option Nat := (Text.hexDigit? c).filter (· < base)

/-- The digits of a row in which an underscore may stand between two digits. -/
def digitRow (base : Nat) : List Char → Option (List Nat)
  | [] => none
  | [c] => do some [← digitTo? base c]
  | c :: '_' :: rest => do some ((← digitTo? base c) :: (← digitRow base rest))
  | c :: rest => do some ((← digitTo? base c) :: (← digitRow base rest))

/-- The number that a row of digits stands for. -/
def rowValue (base : Nat) (digits : List Nat) : Nat :=
  digits.foldl (fun value digit => value * base + digit) 0

/-- The digits of a whole part, without a leading zero. -/
def wholeRow (word : List Char) : Option (List Nat) := do
  match ← digitRow 10 word with
  | 0 :: _ :: _ => none
  | digits => some digits

/-- A sign at the front, and the rest of the word. -/
def takeSign : List Char → Bool × List Char
  | '-' :: rest => (true, rest)
  | '+' :: rest => (false, rest)
  | rest => (false, rest)

/-- An integer, which is held in at most 128 bits. -/
def boundInteger (value : Int) : Value :=
  if -Int.ofNat (twoTo 127) ≤ value ∧ value < Int.ofNat (twoTo 128) then .integer value
  else .overflow

/-- Whether a character starts an exponent. -/
def isExponentMark (c : Char) : Bool := c == 'e' || c == 'E'

/-- Whether every underscore stands between two digits to some base. -/
def underscoresFit : List Char → Bool
  | a :: '_' :: b :: rest =>
    (Text.hexDigit? a).isSome && (Text.hexDigit? b).isSome && underscoresFit (b :: rest)
  | [_, '_'] => false
  | _ :: rest => underscoresFit rest
  | [] => true

/-- Whether a word without a sign goes on after digits and an underscore, and is neither a fraction
nor has an exponent. -/
def isOpenInteger (word : List Char) : Bool :=
  (word.head?.any fun c => c.isDigit && c != '0')
  && (word.dropWhile Char.isDigit).head? == some '_'
  && !word.any (fun c => c == '.' || isExponentMark c)
  && underscoresFit word

/-- An integer, in decimal digits with a sign or to another base without one. -/
def integer? (word : List Char) : Option Value := do
  match word with
  | ['0', 'x'] | ['0', 'o'] | ['0', 'b'] => some .overflow
  | '0' :: 'x' :: rest => some (boundInteger (rowValue 16 (← digitRow 16 rest)))
  | '0' :: 'o' :: rest => some (boundInteger (rowValue 8 (← digitRow 8 rest)))
  | '0' :: 'b' :: rest => some (boundInteger (rowValue 2 (← digitRow 2 rest)))
  | _ =>
    let (negative, rest) := takeSign word
    match wholeRow rest with
    | some digits =>
      let value : Int := rowValue 10 digits
      some (boundInteger (if negative then -value else value))
    | none => if isOpenInteger rest then some .overflow else none

/-- The exponent after its mark; no mark means zero. -/
def exponent? : List Char → Option Int
  | [] => some 0
  | _ :: rest => do
    let (negative, rest) := takeSign rest
    let value : Int := rowValue 10 (← digitRow 10 rest)
    some (if negative then -value else value)

/-- A floating-point number with a fraction, an exponent or both. -/
def decimalReal? (negative : Bool) (word : List Char) : Option Value := do
  let mantissa := word.takeWhile fun c => !isExponentMark c
  let power := word.dropWhile fun c => !isExponentMark c
  let whole ← wholeRow (mantissa.takeWhile (· != '.'))
  let exponent ← exponent? power
  let fraction ← match mantissa.dropWhile (· != '.') with
    | [] => if power.isEmpty then none else some []
    | _ :: fraction => digitRow 10 fraction
  match Binary64.ofDecimal? (rowValue 10 (whole ++ fraction)) (exponent - fraction.length) with
  | some (mantissa, exponent) => some (.real (.finite negative mantissa exponent))
  | none => some .overflow

/-- A floating-point number. -/
def real? (word : List Char) : Option Value :=
  match takeSign word with
  | (negative, ['i', 'n', 'f']) => some (.real (.infinite negative))
  | (_, ['n', 'a', 'n']) => some (.real .notANumber)
  | (negative, rest) => decimalReal? negative rest

/-- A number in exactly so many decimal digits, and the rest of the word. -/
def takeNumber : Nat → Nat → List Char → Option (Nat × List Char)
  | 0, value, rest => some (value, rest)
  | _ + 1, _, [] => none
  | count + 1, value, c :: rest => do takeNumber count (value * 10 + (← digitTo? 10 c)) rest

/-- The rest of the word after a mark. -/
def afterMark (mark : Char) : List Char → Option (List Char)
  | [] => none
  | c :: rest => if c = mark then some rest else none

/-- How many days a month has. -/
def daysIn (year month : Nat) : Nat :=
  if month = 2 then
    if year % 4 = 0 ∧ (year % 100 ≠ 0 ∨ year % 400 = 0) then 29 else 28
  else if month = 4 ∨ month = 6 ∨ month = 9 ∨ month = 11 then 30
  else 31

/-- The rest of the word after an existing date. -/
def afterDate? (word : List Char) : Option (List Char) := do
  let (year, word) ← takeNumber 4 0 word
  let (month, word) ← takeNumber 2 0 (← afterMark '-' word)
  let (day, word) ← takeNumber 2 0 (← afterMark '-' word)
  if 1 ≤ month ∧ month ≤ 12 ∧ 1 ≤ day ∧ day ≤ daysIn year month then some word else none

/-- The rest of the word after the decimal digits of a second, if it has any. -/
def afterFraction? : List Char → Option (List Char)
  | '.' :: c :: rest =>
    if c.isDigit then some (rest.dropWhile Char.isDigit) else none
  | '.' :: [] => none
  | word => some word

/-- The rest of the word after an existing time. Seconds may be left out. -/
def afterTime? (word : List Char) : Option (List Char) := do
  let (hour, word) ← takeNumber 2 0 word
  let (minute, word) ← takeNumber 2 0 (← afterMark ':' word)
  if 23 < hour ∨ 59 < minute then none
  else match word with
    | ':' :: rest => do
      let (second, rest) ← takeNumber 2 0 rest
      if 60 < second then none else afterFraction? rest
    | _ => some word

/-- Whether the word is a time zone: the letter Z or a distance in hours and minutes. -/
def isZone (word : List Char) : Bool :=
  match word with
  | ['Z'] | ['z'] => true
  | sign :: rest =>
    (sign == '+' || sign == '-') &&
      (do
        let (hour, rest) ← takeNumber 2 0 rest
        let (minute, rest) ← takeNumber 2 0 (← afterMark ':' rest)
        if hour ≤ 23 ∧ minute ≤ 59 ∧ rest = [] then some () else none).isSome
  | [] => false

/-- A date, a time, or a date and a time with or without a zone. -/
def moment? (word : List Char) : Option Value :=
  match afterDate? word with
  | some [] => some .moment
  | some (separator :: time) =>
    if separator == 'T' || separator == 't' || separator == ' ' then
      match afterTime? time with
      | some rest => if rest = [] ∨ isZone rest then some .moment else none
      | none => none
    else none
  | none =>
    match afterTime? word with
    | some [] => some .moment
    | _ => none

/-- The value of a bare scalar. -/
def scalar? (word : List Char) : Option Value :=
  if word = ['t', 'r', 'u', 'e'] then some (.boolean true)
  else if word = ['f', 'a', 'l', 's', 'e'] then some (.boolean false)
  else integer? word <|> real? word <|> moment? word

/-- A bare scalar, and what follows it. A date may be followed by a blank and a time. -/
def readScalar (source : List Char) : Option (Value × List Char) :=
  let word := source.takeWhile isWordChar
  let rest := source.dropWhile isWordChar
  match afterDate? word, rest with
  | some [], ' ' :: c :: tail =>
    if c.isDigit then
      let time := (c :: tail).takeWhile isWordChar
      (moment? (word ++ ' ' :: time)).map (·, (c :: tail).dropWhile isWordChar)
    else (scalar? word).map (·, rest)
  | _, _ => (scalar? word).map (·, rest)

end MessageContracts.Toml
