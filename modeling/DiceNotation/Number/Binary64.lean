/-!
# Binary floating point numbers

Numbers of the 64 bit binary format in exact form: a significand below `2 ^ 53` times a power of two.
A decimal is read as the nearest such number, a half goes to the even significand. A number is written
with the fewest digits that read back as it.
-/

namespace DiceNotation

/-- A number of the 64 bit format. A finite one is `significand * 2 ^ exponent`, with its sign. -/
inductive Binary64 where
  | finite (negative : Bool) (significand : Nat) (exponent : Int)
  | infinite (negative : Bool)
  | notANumber
deriving DecidableEq, Repr

namespace Binary64

/-- The smallest exponent. -/
def minExponent : Int := -1074

/-- The largest exponent. -/
def maxExponent : Int := 971

/-- `base ^ exponent` as a numerator and a denominator. -/
def power (base : Nat) (exponent : Int) : Nat × Nat :=
  (Nat.pow base exponent.toNat, Nat.pow base (-exponent).toNat)

/-- The quotient rounded to the nearest whole number, a half to the even one. -/
def roundedQuotient (num den : Nat) : Nat :=
  let whole := num / den
  let twice := 2 * (num % den)
  if twice < den then whole
  else if den < twice then whole + 1
  else whole + whole % 2

/-- The number nearest to the positive quotient `num / den`. -/
def nearest (negative : Bool) (num den : Nat) : Binary64 :=
  let quotientAt (exponent : Int) : Nat × Nat :=
    let unit := power 2 exponent
    (num * unit.2, den * unit.1)
  let low := max minExponent ((num.log2 : Int) - den.log2 - 53)
  let (lowNum, lowDen) := quotientAt low
  let exponent := if Nat.pow 2 53 ≤ lowNum / lowDen then low + 1 else low
  let (scaledNum, scaledDen) := quotientAt exponent
  let rounded := roundedQuotient scaledNum scaledDen
  let (significand, exponent) :=
    if rounded = Nat.pow 2 53 then (Nat.pow 2 52, exponent + 1) else (rounded, exponent)
  if maxExponent < exponent then .infinite negative else .finite negative significand exponent

/-- The number nearest to the decimal `digits * 10 ^ exponent`. -/
def ofDecimal (negative : Bool) (digits : Nat) (exponent : Int) : Binary64 :=
  let size := (Nat.toDigits 10 digits).length + exponent
  if digits = 0 || size < -330 then .finite negative 0 minExponent
  else if 310 < size then .infinite negative
  else
    let unit := power 10 exponent
    nearest negative (digits * unit.1) unit.2

/-- Whether the number is zero, of either sign. -/
def isZero : Binary64 → Bool
  | .finite _ significand _ => significand == 0
  | _ => false

/-- The value of a finite number that has no fraction. -/
def toInt? : Binary64 → Option Int
  | .finite negative significand exponent =>
    let unit := power 2 exponent
    if significand * unit.1 % unit.2 = 0 then
      let size : Int := (significand * unit.1 / unit.2 : Nat)
      some (if negative then -size else size)
    else none
  | _ => none

/-! ## Writing -/

/-- The place of the first digit of the positive quotient `num / den`: it is below ten to this power
and not below ten to the one before. -/
def leadingPlace (num den : Nat) : Int :=
  if den ≤ num then (Nat.toDigits 10 (num / den)).length
  else
    match (List.range 400).find? fun zeros => den ≤ num * Nat.pow 10 (zeros + 1) with
    | some zeros => -(zeros : Int)
    | none => 0

/-- The shortest decimal `digits * 10 ^ exponent` that reads back as the number
`significand * 2 ^ exponent`, and of those the nearest. -/
def shortest (significand : Nat) (exponent : Int) : Nat × Int :=
  let unit := power 2 (exponent - 2)
  let value := 4 * significand
  let above := 2
  let below := if significand = Nat.pow 2 52 && minExponent < exponent then 1 else 2
  let place := leadingPlace (value * unit.1) unit.2
  let readsBack (scaled den : Nat) : Bool :=
    if significand % 2 = 0 then
      (value - below) * den ≤ scaled && scaled ≤ (value + above) * den
    else
      (value - below) * den < scaled && scaled < (value + above) * den
  let candidate? (count : Nat) : Option (Nat × Int) :=
    let grid := place - (count + 1 : Nat)
    let step := power 10 grid
    let num := value * unit.1 * step.2
    let den := unit.2 * step.1
    let low := num / den
    let ok (digits : Nat) : Bool := readsBack (digits * step.1 * unit.2) (unit.1 * step.2)
    if ok low && ok (low + 1) then
      some (roundedQuotient num den, grid)
    else if ok low then some (low, grid)
    else if ok (low + 1) then some (low + 1, grid)
    else none
  ((List.range 17).findSome? candidate?).getD (0, 0)

/-- Which numbers are written without an exponent. -/
structure Layout where
  lowestPlace : Int
  highestPlace : Int

/-- A number is written without an exponent when its decimal point stands at most four places before
and at most sixteen places after the first digit. -/
def layout : Layout := ⟨-3, 16⟩

/-- Digits with the decimal point after `place` of them. -/
def writtenDigits (digits : List Char) (place : Int) : List Char :=
  if layout.lowestPlace ≤ place && place ≤ layout.highestPlace then
    if place ≤ 0 then
      '0' :: '.' :: (List.replicate (-place).toNat '0' ++ digits)
    else if digits.length ≤ place.toNat then
      digits ++ List.replicate (place.toNat - digits.length) '0' ++ ['.', '0']
    else digits.take place.toNat ++ '.' :: digits.drop place.toNat
  else
    let power := place - 1
    let size := (Nat.toDigits 10 power.natAbs)
    let fraction := digits.drop 1
    digits.take 1 ++ (if fraction.isEmpty then [] else '.' :: fraction) ++
      'e' :: (if power < 0 then '-' else '+') ::
        (List.replicate (2 - size.length) '0' ++ size)

/-- The number as text. -/
def text : Binary64 → String
  | .notANumber => "nan"
  | .infinite negative => if negative then "-inf" else "inf"
  | .finite negative significand exponent =>
    let sign := if negative then "-" else ""
    if significand = 0 then sign ++ "0.0"
    else
      let (number, grid) := shortest significand exponent
      let all := Nat.toDigits 10 number
      let digits := (all.reverse.dropWhile (· == '0')).reverse
      sign ++ String.ofList (writtenDigits digits (all.length + grid))

end Binary64

end DiceNotation
