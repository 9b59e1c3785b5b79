import MessageContracts.Decimal.Binary64

/-!
# The shortest decimal text of a number

A floating-point number is written with the fewest digits that read back as the same number, and
among those with the digits nearest to it. A notation says where positional writing ends and which
of two digits that are equally near is taken.
-/

namespace MessageContracts.Decimal

/-- Compare `a * 10 ^ power` with `b * 2 ^ exponent`. -/
def compareScaled (a : Nat) (power : Int) (b : Nat) (exponent : Int) : Ordering :=
  compare (a * tenTo power.toNat * twoTo (-exponent).toNat)
    (b * twoTo exponent.toNat * tenTo (-power).toNat)

/-- The least power of ten above `mantissa * 2 ^ exponent`, for a mantissa other than zero. -/
def order (mantissa : Nat) (exponent : Int) : Int :=
  let whole := mantissa * twoTo exponent.toNat / twoTo (-exponent).toNat
  if whole ≠ 0 then (Nat.toDigits 10 whole).length
  else
    let shift := (List.range 400).find? fun shift =>
      twoTo (-exponent).toNat ≤ mantissa * tenTo shift
    1 - (shift.getD 0 : Int)

/-- Whether `digits * 10 ^ power` reads back as `mantissa * 2 ^ exponent`. Halfway points belong
to the even mantissa; below a power of two the neighbour is only half as far away. -/
def readsBack (mantissa : Nat) (exponent : Int) (digits : Nat) (power : Int) : Bool :=
  let upper := compareScaled digits power (2 * mantissa + 1) (exponent - 1)
  let lower :=
    if mantissa = twoTo 52 ∧ exponent > -1074 then
      compareScaled digits power (4 * mantissa - 1) (exponent - 2)
    else compareScaled digits power (2 * mantissa - 1) (exponent - 1)
  let even := mantissa % 2 = 0
  (upper = .lt ∨ (upper = .eq ∧ even)) ∧ (lower = .gt ∨ (lower = .eq ∧ even))

/-- Which of two neighbours on a grid stands for a number halfway between them. -/
inductive Tie where
  /-- The even one. -/
  | even
  /-- The greater one. -/
  | up
deriving DecidableEq, Repr

/-- Whether the tie goes from `down` to its successor. -/
def Tie.goesUp (down : Nat) : Tie → Bool
  | .even => down % 2 == 1
  | .up => true

/-- The digits on one decimal grid that read back, the nearest if there are two. -/
def onGrid? (tie : Tie) (mantissa : Nat) (exponent power : Int) : Option Nat :=
  let down := mantissa * twoTo exponent.toNat * tenTo (-power).toNat
    / (twoTo (-exponent).toNat * tenTo power.toNat)
  match readsBack mantissa exponent down power, readsBack mantissa exponent (down + 1) power with
  | false, false => none
  | true, false => some down
  | false, true => some (down + 1)
  | true, true =>
    match compareScaled (2 * down + 1) power (2 * mantissa) exponent with
    | .gt => some down
    | .lt => some (down + 1)
    | .eq => some (if tie.goesUp down then down + 1 else down)

/-- The fewest digits that read back, with the power of ten that they are counted in. -/
def shortest (tie : Tie) (mantissa : Nat) (exponent : Int) : Nat × Int :=
  let top := order mantissa exponent
  let grid := (List.range 17).findSome? fun (count : Nat) =>
    let power := top - (count + 1 : Nat)
    (onGrid? tie mantissa exponent power).map (·, power)
  grid.getD (mantissa, exponent)

/-- How decimal texts are written. -/
structure Notation where
  /-- Numbers below this power of ten are written with an exponent. -/
  leastOrder : Option Int
  /-- Numbers from this power of ten on are written with an exponent. -/
  greatestOrder : Option Int
  /-- What stands in front of an exponent that is not negative. -/
  plus : String
  /-- Where a number goes that is halfway between two shortest texts. -/
  tie : Tie

/-- The digits with their power of ten, without a dot, an exponent or zeros at the end. -/
def significant (digits : Nat) (power : Int) : List Char × Int :=
  let all := Nat.toDigits 10 digits
  let kept := (all.reverse.dropWhile (· == '0')).reverse
  (kept, power + (all.length - kept.length : Nat))

/-- Zeros in a row. -/
def zeros (count : Int) : List Char := List.replicate count.toNat '0'

/-- The text of a magnitude other than zero. -/
def magnitudeText (style : Notation) (digits : List Char) (power : Int) : List Char :=
  let top := digits.length + power
  if style.leastOrder.all (· < top) && style.greatestOrder.all (top ≤ ·) then
    if 0 ≤ power then digits ++ zeros power ++ ['.', '0']
    else if 0 < top then digits.take top.toNat ++ '.' :: digits.drop top.toNat
    else '0' :: '.' :: zeros (-top) ++ digits
  else
    let mark := if 0 < top then 'e' :: style.plus.toList else ['e', '-']
    let body := match digits with
      | [] => []
      | [digit] => [digit]
      | digit :: rest => digit :: '.' :: rest
    body ++ mark ++ Nat.toDigits 10 (top - 1).natAbs

/-- The decimal text of a number. -/
def text (style : Notation) : Binary64 → String
  | .notANumber => "NaN"
  | .infinite negative => if negative then "-inf" else "inf"
  | .finite negative mantissa exponent =>
    let magnitude :=
      if mantissa = 0 then ['0', '.', '0']
      else
        let (digits, power) := shortest style.tie mantissa exponent
        let (digits, power) := significant digits power
        magnitudeText style digits power
    String.ofList (if negative then '-' :: magnitude else magnitude)

end MessageContracts.Decimal
