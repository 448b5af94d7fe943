import Typeface.Text.Digit

/-!
# Decimal numerals

Whole numbers in canonical decimal form: no sign for a natural number, one
minus sign for a negative one, and no leading zero.
-/

namespace Typeface.Number

def decimalDigits (value : Nat) : List Char :=
  Nat.toDigits 10 value

def decimalLetters (value : Int) : List Char :=
  if value < 0 then '-' :: decimalDigits value.natAbs else decimalDigits value.natAbs

def decimal (value : Int) : String :=
  String.ofList (decimalLetters value)

/-- A number in at least `width` digits, padded with zeros. -/
def paddedDigits (width value : Nat) : List Char :=
  let digits := decimalDigits value
  List.replicate (width - digits.length) '0' ++ digits

end Typeface.Number
