/-!
# Binary floating-point numbers of 64 bits

A finite number is a mantissa times a power of two. Rounding goes to the nearest such number, and
halfway cases go to the even mantissa. All arithmetic is exact on natural numbers.
-/

namespace MessageContracts

/-- A power of two. -/
def twoTo (exponent : Nat) : Nat := Nat.pow 2 exponent

/-- A power of ten. -/
def tenTo (exponent : Nat) : Nat := Nat.pow 10 exponent

/-- A binary floating-point number. -/
inductive Binary64 where
  /-- The number `mantissa * 2 ^ exponent`, with a sign that zero has too. -/
  | finite (negative : Bool) (mantissa : Nat) (exponent : Int)
  /-- An infinity. -/
  | infinite (negative : Bool)
  /-- No number. -/
  | notANumber
deriving DecidableEq, Repr

namespace Binary64

/-- The quotient rounded to the nearest integer, halves to the even one. -/
def divRound (a b : Nat) : Nat :=
  let quotient := a / b
  let twice := 2 * (a % b)
  if twice > b ∨ (twice = b ∧ quotient % 2 = 1) then quotient + 1 else quotient

/-- The quotient of `num / den` by a power of two, rounded to an integer. -/
def scaledRound (num den : Nat) (exponent : Int) : Nat :=
  if exponent < 0 then divRound (num * twoTo (-exponent).toNat) den
  else divRound num (den * twoTo exponent.toNat)

/-- Whether `num / den` lies below `2 ^ power`. -/
def below (num den : Nat) (power : Int) : Bool :=
  if power < 0 then num * twoTo (-power).toNat < den else num < den * twoTo power.toNat

/-- The nearest mantissa and exponent to `num / den`, or nothing when it is out of range. -/
def ofRatio? (num den : Nat) : Option (Nat × Int) :=
  if num = 0 then some (0, 0)
  else
    let guess : Int := (num.log2 : Int) - den.log2 - 52
    let exact := if below num den (guess + 52) then guess - 1 else guess
    let exponent := max exact (-1074)
    let mantissa := scaledRound num den exponent
    let (mantissa, exponent) :=
      if mantissa = twoTo 53 then (twoTo 52, exponent + 1) else (mantissa, exponent)
    if exponent > 971 then none else some (mantissa, exponent)

/-- The product of two magnitudes, rounded. -/
def mul? (a b : Nat × Int) : Option (Nat × Int) :=
  let exponent := a.2 + b.2
  if exponent < 0 then ofRatio? (a.1 * b.1) (twoTo (-exponent).toNat)
  else ofRatio? (a.1 * b.1 * twoTo exponent.toNat) 1

/-- The quotient of two magnitudes, rounded; the second is not zero. -/
def div? (a b : Nat × Int) : Option (Nat × Int) :=
  let exponent := a.2 - b.2
  if exponent < 0 then ofRatio? a.1 (b.1 * twoTo (-exponent).toNat)
  else ofRatio? (a.1 * twoTo exponent.toNat) b.1

/-- The nearest magnitude to `digits * 10 ^ exponent`, or nothing when it is out of range. -/
def ofDecimal? (digits : Nat) (exponent : Int) : Option (Nat × Int) :=
  let order : Int := (Nat.toDigits 10 digits).length + exponent
  if digits = 0 ∨ order < -400 then some (0, 0)
  else if order > 400 then none
  else if exponent < 0 then ofRatio? digits (tenTo (-exponent).toNat)
  else ofRatio? (digits * tenTo exponent.toNat) 1

end Binary64

end MessageContracts
