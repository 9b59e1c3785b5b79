import MessageContracts.Document.Node
import MessageContracts.Text.Characters

/-!
# Numbers in JSON

A number is an integer while it has neither fraction nor exponent and fits in 64 bits. Any other
number is read through a mantissa of at most 64 bits: digits that no longer fit are dropped from
it, and the mantissa is scaled by powers of ten in double precision.
-/

namespace MessageContracts.Json

open Text (Scalar)

/-- The parts of a written number. -/
structure Literal where
  /-- Whether it has a minus sign. -/
  negative : Bool
  /-- The digits in front of the dot. -/
  whole : List Nat
  /-- The digits after the dot. -/
  fraction : List Nat
  /-- The exponent, if one is written. -/
  exponent : Option Int
deriving DecidableEq, Repr

/-- The value of an ASCII digit. -/
def digit? : Scalar → Option Nat
  | some c => if c.isDigit then some (c.toNat - '0'.toNat) else none
  | none => none

/-- The digits at the front and what follows them. -/
def takeDigits : List Scalar → List Nat × List Scalar
  | [] => ([], [])
  | c :: rest =>
    match digit? c with
    | none => ([], c :: rest)
    | some d =>
      let (digits, rest) := takeDigits rest
      (d :: digits, rest)

/-- The digits of a whole part: no zero in front of another digit. -/
def readWhole (source : List Scalar) : Option (List Nat × List Scalar) :=
  match takeDigits source with
  | ([], _) => none
  | (0 :: _ :: _, _) => none
  | (digits, rest) => some (digits, rest)

/-- The digits after a dot, if there is a dot. -/
def readFraction : List Scalar → Option (List Nat × List Scalar)
  | some '.' :: rest =>
    match takeDigits rest with
    | ([], _) => none
    | (digits, rest) => some (digits, rest)
  | rest => some ([], rest)

/-- The exponent, if there is an exponent mark. -/
def readExponent : List Scalar → Option (Option Int × List Scalar)
  | some c :: rest =>
    if c = 'e' ∨ c = 'E' then
      let (negative, rest) := match rest with
        | some '+' :: rest => (false, rest)
        | some '-' :: rest => (true, rest)
        | rest => (false, rest)
      match takeDigits rest with
      | ([], _) => none
      | (digits, rest) =>
        let value : Nat := digits.foldl (fun value digit => value * 10 + digit) 0
        some (some (if negative then -value else value), rest)
    else some (none, some c :: rest)
  | rest => some (none, rest)

/-- The number at the front and what follows it. -/
def readLiteral (source : List Scalar) : Option (Literal × List Scalar) := do
  let (negative, source) := match source with
    | some '-' :: rest => (true, rest)
    | source => (false, source)
  let (whole, source) ← readWhole source
  let (fraction, source) ← readFraction source
  let (exponent, source) ← readExponent source
  some (⟨negative, whole, fraction, exponent⟩, source)

/-- Append digits to a mantissa while it stays below `2 ^ 64`, and return the digits left over. -/
def absorb : Nat → List Nat → Nat × List Nat
  | mantissa, [] => (mantissa, [])
  | mantissa, digit :: rest =>
    let next := mantissa * 10 + digit
    if next < twoTo 64 then absorb next rest else (mantissa, digit :: rest)

/-- Divide a magnitude by `10 ^ power`, by at most `10 ^ 308` at a time. -/
def scaleDown (magnitude : Nat × Int) (power : Nat) : Option (Nat × Int) :=
  if magnitude.1 = 0 then some (0, 0)
  else if power ≤ 308 then do Binary64.div? magnitude (← Binary64.ofDecimal? 1 power)
  else do
    let magnitude ← Binary64.div? magnitude (← Binary64.ofDecimal? 1 308)
    scaleDown magnitude (power - 308)
termination_by power

/-- A mantissa scaled by a power of ten in double precision, unless it is out of range. -/
def scale (mantissa : Nat) (power : Int) : Option (Nat × Int) := do
  let magnitude ← Binary64.ofDecimal? mantissa 0
  if mantissa = 0 then some (0, 0)
  else if power < 0 then scaleDown magnitude (-power).toNat
  else if 308 < power then none
  else Binary64.mul? magnitude (← Binary64.ofDecimal? 1 power)

namespace Literal

/-- The number as a mantissa and a power of ten. -/
def scaled (literal : Literal) : Nat × Int :=
  let (mantissa, dropped) := absorb 0 literal.whole
  let (mantissa, unread) := absorb mantissa literal.fraction
  (mantissa, dropped.length - (literal.fraction.length - unread.length : Nat)
    + literal.exponent.getD 0)

/-- The value of the number as a real. -/
def real (literal : Literal) : Node :=
  let (mantissa, power) := literal.scaled
  match scale mantissa power with
  | none => .unreadable
  | some (mantissa, exponent) => .real (.finite literal.negative mantissa exponent)

/-- The value of the number. Minus zero is no integer. -/
def node (literal : Literal) : Node :=
  let (value, dropped) := absorb 0 literal.whole
  if literal.fraction.isEmpty && literal.exponent.isNone && dropped.isEmpty then
    if !literal.negative then .integer value
    else if 0 < value ∧ value ≤ twoTo 63 then .integer (-value)
    else literal.real
  else literal.real

end Literal

end MessageContracts.Json
