import Typeface.Number.Binary64
import Typeface.Number.Decimal

/-!
# Shortest decimals

The text of a binary number is the shortest decimal that reads back as the
same number, and of several such decimals the nearest.  Each finite number has
an interval of reals that round to it; for one digit, two digits and so on the
two neighbours of the number on the decimal grid are tried, and the first grid
with a neighbour inside the interval wins.
-/

namespace Typeface.Number

open Binary64

/-- A decimal `digits * 10 ^ exponent`. -/
structure Decimal where
  digits : Nat
  exponent : Int
deriving DecidableEq, Repr

namespace Shortest

/-- The interval of reals that round to a finite number, in quarters of the last place:
the number is `4 * significand` of them. -/
structure Interval where
  low : Nat
  centre : Nat
  high : Nat
  closed : Bool
  exponent : Int

def interval (significand : Nat) (exponent : Int) : Interval :=
  let below := if 2 * significand = significandBound ∧ leastExponent < exponent then 1 else 2
  { low := 4 * significand - below
    centre := 4 * significand
    high := 4 * significand + 2
    closed := significand % 2 = 0
    exponent := exponent - 2 }

/-- Both sides of a comparison of `quarters * 2 ^ binary` with `digits * 10 ^ power` as integers. -/
def aligned (quarters : Nat) (binary : Int) (digits : Nat) (power : Int) : Nat × Nat :=
  ((quarters <<< binary.toNat) * Nat.pow 10 (-power).toNat,
    (digits <<< (-binary).toNat) * Nat.pow 10 power.toNat)

def Interval.contains (range : Interval) (digits : Nat) (power : Int) : Bool :=
  let low := aligned range.low range.exponent digits power
  let high := aligned range.high range.exponent digits power
  if range.closed then low.1 ≤ low.2 && high.2 ≤ high.1
  else low.1 < low.2 && high.2 < high.1

/-- The greatest power of ten that is not above `numerator / denominator`. -/
def powerOfTen (numerator denominator : Nat) : Int :=
  if denominator ≤ numerator then (decimalDigits (numerator / denominator)).length - 1
  else
    let places := (decimalDigits (denominator / numerator)).length
    if denominator ≤ numerator * Nat.pow 10 (places - 1) then 1 - (places : Int) else -(places : Int)

/-- The better neighbour on a grid, if one lies in the interval. -/
def onGrid? (range : Interval) (power : Int) : Option Decimal :=
  let unit := aligned range.centre range.exponent 1 power
  let floor := unit.1 / unit.2
  let twice := 2 * (unit.1 % unit.2)
  let lower := range.contains floor power && floor != 0
  let upper := range.contains (floor + 1) power
  let prefersUpper := unit.2 < twice || (unit.2 == twice && floor % 2 == 1)
  if upper && (!lower || prefersUpper) then some { digits := floor + 1, exponent := power }
  else if lower then some { digits := floor, exponent := power }
  else none

/-- Tries the grids in turn, coarse ones first. -/
def search (range : Interval) (power : Int) : Nat → Option Decimal
  | 0 => none
  | grids + 1 => (onGrid? range power).orElse fun _ => search range (power - 1) grids

/-- Seventeen digits always tell two numbers apart, and eighteen grids allow for a carry. -/
def decimal (significand : Nat) (exponent : Int) : Decimal :=
  let fraction := ratio significand exponent
  let power := powerOfTen fraction.1 fraction.2
  (search (interval significand exponent) (power + 1) 19).getD { digits := 0, exponent := 0 }

/-- Drops zeros at the end of the digits, which do not count. -/
def trimZeros (digits : List Char) : List Char :=
  match (digits.reverse.dropWhile (· == '0')).reverse with
  | [] => ['0']
  | kept => kept

end Shortest

/-- Powers of ten from here up to `scientificFrom` are written without an exponent. -/
def positionalFrom : Int := -4

def scientificFrom : Int := 16

/-- An exponent has a sign and at least two digits. -/
def exponentLetters (exponent : Int) : List Char :=
  (if exponent < 0 then ['-'] else ['+']) ++ paddedDigits 2 exponent.natAbs

/-- Writes digits whose first one has the weight `10 ^ lead`: positionally with at least one
place after the point, or with an exponent and a point only where digits follow. -/
def layOut (digits : List Char) (lead : Int) : List Char :=
  if positionalFrom ≤ lead ∧ lead < scientificFrom then
    if lead < 0 then '0' :: '.' :: List.replicate (lead.natAbs - 1) '0' ++ digits
    else
      let whole := digits.take (lead.toNat + 1)
      let padded := whole ++ List.replicate (lead.toNat + 1 - digits.length) '0'
      let rest := digits.drop (lead.toNat + 1)
      padded ++ '.' :: (if rest.isEmpty then ['0'] else rest)
  else
    let lone := digits.take 1
    let rest := digits.drop 1
    lone ++ (if rest.isEmpty then [] else '.' :: rest) ++ 'e' :: exponentLetters lead

/-- The shortest text that reads back as the number. -/
def Binary64.text : Binary64 → String
  | nan => "nan"
  | infinite negative => if negative then "-inf" else "inf"
  | finite negative significand exponent =>
    let sign := if negative then ['-'] else []
    if significand = 0 then String.ofList (sign ++ ['0', '.', '0'])
    else
      let found := Shortest.decimal significand exponent
      let digits := decimalDigits found.digits
      let lead := found.exponent + digits.length - 1
      String.ofList (sign ++ layOut (Shortest.trimZeros digits) lead)

end Typeface.Number
