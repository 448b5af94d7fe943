/-!
# Binary floating-point numbers

A `Binary64` is a number of the 64-bit binary format: not a number, an
infinity, or a signed product of a significand below 2^53 and a power of two.
`ofRatio` rounds a quotient to the nearest such number, a tie to the even
significand, and all other operations are exact.
-/

namespace Typeface.Number

inductive Binary64
  | nan
  | infinite (negative : Bool)
  | finite (negative : Bool) (significand : Nat) (exponent : Int)
deriving DecidableEq, Repr

namespace Binary64

/-- The exponent of the smallest positive numbers. -/
def leastExponent : Int := -1074

/-- The exponent of the largest finite numbers. -/
def greatestExponent : Int := 971

/-- Significands lie below this bound; they reach half of it unless the exponent is the least. -/
def significandBound : Nat := 1 <<< 53

/-- The one representation in use for each number. -/
def Canonical : Binary64 → Prop
  | nan => True
  | infinite _ => True
  | finite _ significand exponent =>
    significand < significandBound ∧ leastExponent ≤ exponent ∧ exponent ≤ greatestExponent ∧
      (significandBound ≤ 2 * significand ∨ exponent = leastExponent)

def zero : Binary64 := finite false 0 leastExponent

/-- Rounds a quotient to the nearest integer, a tie to the even one. -/
def roundHalfEven (numerator denominator : Nat) : Nat :=
  let quotient := numerator / denominator
  let twice := 2 * (numerator % denominator)
  if denominator < twice ∨ denominator = twice ∧ quotient % 2 = 1 then quotient + 1 else quotient

/-- Numerator and denominator of a quotient divided by a power of two. -/
def scale (numerator denominator : Nat) (exponent : Int) : Nat × Nat :=
  match exponent with
  | .ofNat power => (numerator, denominator <<< power)
  | .negSucc power => (numerator <<< (power + 1), denominator)

/-- The exponent that gives the quotient a significand of 53 bits, if the range allows. -/
def fittingExponent (numerator denominator : Nat) : Int :=
  let guess : Int := (Nat.log2 numerator : Int) - (Nat.log2 denominator : Int) - 53
  let scaled := scale numerator denominator guess
  let exponent := if significandBound * scaled.2 ≤ scaled.1 then guess + 1 else guess
  max leastExponent exponent

/-- The nearest number to a quotient of positive denominator. -/
def ofRatio (negative : Bool) (numerator denominator : Nat) : Binary64 :=
  if numerator = 0 then finite negative 0 leastExponent
  else
    let exponent := fittingExponent numerator denominator
    let scaled := scale numerator denominator exponent
    let significand := roundHalfEven scaled.1 scaled.2
    if significand < significandBound then
      if greatestExponent < exponent then infinite negative
      else finite negative significand exponent
    else if greatestExponent < exponent + 1 then infinite negative
    else finite negative (significandBound / 2) (exponent + 1)

/-- The nearest number to `digits * 10 ^ exponent`; far exponents need no arithmetic. -/
def ofDecimal (negative : Bool) (digits : Nat) (exponent : Int) : Binary64 :=
  let magnitude := (Nat.toDigits 10 digits).length + exponent
  if digits = 0 ∨ magnitude < -330 then finite negative 0 leastExponent
  else if 330 < magnitude then infinite negative
  else
    match exponent with
    | .ofNat power => ofRatio negative (digits * Nat.pow 10 power) 1
    | .negSucc power => ofRatio negative digits (Nat.pow 10 (power + 1))

/-- The nearest number to an integer. -/
def ofInt (value : Int) : Binary64 :=
  ofRatio (value < 0) value.natAbs 1

def isFinite : Binary64 → Bool
  | finite .. => true
  | _ => false

/-- The numerator and the denominator of the absolute value of a finite number. -/
def ratio (significand : Nat) (exponent : Int) : Nat × Nat :=
  match exponent with
  | .ofNat power => (significand <<< power, 1)
  | .negSucc power => (significand, 1 <<< (power + 1))

/-- The integer part, for a finite number. -/
def truncate? : Binary64 → Option Int
  | finite negative significand exponent =>
    let fraction := ratio significand exponent
    let whole : Int := (fraction.1 / fraction.2 : Nat)
    some (if negative then -whole else whole)
  | _ => none

/-- The integer that a number equals. -/
def toInt? : Binary64 → Option Int
  | finite negative significand exponent =>
    let fraction := ratio significand exponent
    if fraction.1 % fraction.2 = 0 then
      let whole : Int := (fraction.1 / fraction.2 : Nat)
      some (if negative then -whole else whole)
    else none
  | _ => none

/-- Numeric equality: the two zeros are equal and `nan` differs from all numbers, itself included. -/
def equal : Binary64 → Binary64 → Bool
  | finite negative significand exponent, finite negative' significand' exponent' =>
    significand = significand' && (significand = 0 || (negative = negative' && exponent = exponent'))
  | infinite negative, infinite negative' => negative = negative'
  | _, _ => false

def negate : Binary64 → Binary64
  | finite negative significand exponent => finite (!negative) significand exponent
  | infinite negative => infinite (!negative)
  | nan => nan

/-- How many times the smallest positive number a finite number is. -/
def units (significand : Nat) (exponent : Int) : Nat :=
  significand <<< (exponent - leastExponent).toNat

/-- The nearest number to a multiple of the smallest positive number. -/
def ofUnits (units : Int) : Binary64 :=
  ofRatio (units < 0) units.natAbs (1 <<< (-leastExponent).toNat)

/-- The units of a finite number with its sign. -/
def units? : Binary64 → Option Int
  | finite false significand exponent => some (units significand exponent)
  | finite true significand exponent => some (-(units significand exponent : Int))
  | _ => none

/-- The sum of two numbers that are no infinities, rounded. -/
def add (left right : Binary64) : Binary64 :=
  match units? left, units? right with
  | some left, some right => ofUnits (left + right)
  | some _, none => right
  | none, some _ => left
  | none, none => if left = right then left else nan

/-- A positive multiple of a number, rounded. -/
def times (count : Nat) (value : Binary64) : Binary64 :=
  match units? value with
  | some known => ofUnits (count * known)
  | none => value

def isPositive : Binary64 → Bool
  | finite negative significand _ => !negative && significand != 0
  | infinite negative => !negative
  | nan => false

end Binary64

end Typeface.Number
