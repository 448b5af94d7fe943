import Typeface.Number.Decimal
import Typeface.Number.Binary64
import Typeface.Text.Blank
import Typeface.Text.Encoding
import Typeface.Text.Letter

/-!
# Numerals

Two readings of a number from text.  The plain reading takes a sign and digits
of any script; single underscores may stand between digits.  The lenient
reading, which data files get, knows the digits of ASCII only.  It first tries
the strict form, a minus sign or none and digits without zeros in front; what
is not in this form is tidied and tried once more.
-/

namespace Typeface.Number

open Typeface.Text

/-- Numerals with more digits than this are refused. -/
def digitLimit : Nat := 4300

/-- Takes one sign off the front: whether it is a minus, and what follows. -/
def splitSign : List Char → Bool × List Char
  | '+' :: rest => (false, rest)
  | '-' :: rest => (true, rest)
  | rest => (false, rest)

def signed (negative : Bool) (magnitude : Nat) : Int :=
  if negative then -(magnitude : Int) else magnitude

/-- The values of the digits of a numeral in which single underscores may separate digits. -/
def groupedDigits? (digit? : Char → Option Nat) : List Char → Option (List Nat)
  | [] => none
  | letter :: rest => do
    let value ← digit? letter
    match rest with
    | [] => some [value]
    | '_' :: more => (groupedDigits? digit? more).map (value :: ·)
    | next :: more => (groupedDigits? digit? (next :: more)).map (value :: ·)

def plainNumeral? (digit? : Char → Option Nat) (letters : List Char) : Option Int := do
  let (negative, rest) := splitSign letters
  let digits ← groupedDigits? digit? rest
  guard (digits.length ≤ digitLimit)
  return signed negative (ofDigits 10 digits)

/-- The plain reading of a text. -/
def plainInteger? (text : String) : Option Int :=
  plainNumeral? digitValue? (trim isBlank text.toList)

/-- The plain reading of bytes, which knows ASCII only. -/
def plainIntegerOfBytes? (bytes : Bytes) : Option Int :=
  let letters := bytes.map fun byte => Char.ofNat byte.toNat
  plainNumeral? plainDigit? (trim (fun letter => letter.toNat < 0x80 && isBlank letter) letters)

/-- What a lenient reading of an integer comes to. -/
inductive Reading
  | integer (value : Int)
  | unreadable
  | tooLong
deriving DecidableEq, Repr

/-- The reading of the strict form.  Too many digits are noticed before anything that follows
them; the sign counts as one of them. -/
def strictInteger (letters : List Char) : Reading :=
  let (negative, unsigned) := match letters with
    | '-' :: rest => (true, rest)
    | _ => (false, letters)
  let run := unsigned.takeWhile fun letter => (plainDigit? letter).isSome
  let length := letters.length - unsigned.length + run.length
  if run.head? = some '0' then
    if unsigned = ['0'] then .integer 0 else .unreadable
  else if digitLimit < length then .tooLong
  else if run = unsigned ∧ !run.isEmpty then
    .integer (signed negative (ofDigits 10 (run.filterMap plainDigit?)))
  else .unreadable

/-- Drops a plus sign, which no minus sign may follow. -/
def withoutPlus? : List Char → Option (List Char)
  | '+' :: '-' :: _ => none
  | '+' :: rest => some rest
  | letters => some letters

/-- Drops zeros in front, and underscores after the first of them, but keeps a zero that stands
before a point or at the end.  Zeros after a minus sign stay, and what follows dropped zeros is
not looked at. -/
def dropLeadingZeros : List Char → Option (List Char)
  | '0' :: rest => some (skipped '0' rest)
  | letter :: rest =>
    if letter = '-' ∨ (plainDigit? letter).isSome then some (letter :: rest) else none
  | [] => none
where
  skipped (last : Char) : List Char → List Char
    | [] => [last]
    | '.' :: rest => last :: '.' :: rest
    | letter :: rest =>
      if letter == '0' || letter == '_' then skipped letter rest else letter :: rest

/-- Drops a point and the zeros after it at the end of a numeral. -/
def dropZeroFraction (letters : List Char) : List Char :=
  let whole := letters.takeWhile (· != '.')
  let fraction := letters.drop (whole.length + 1)
  if fraction.all (· == '0') && !fraction.isEmpty then whole else letters

/-- Drops underscores, each of which stands between other characters. -/
def dropUnderscores? (letters : List Char) : Option (List Char) :=
  if letters.contains '_' && letters.head? != some '_' && letters.getLast? != some '_' &&
      !(letters.zip letters.tail).contains ('_', '_') then
    some (letters.filter (· != '_'))
  else none

/-- A numeral without the blanks around it, a plus sign, zeros in front, a fraction of zeros and
underscores. -/
def tidied? (letters : List Char) : Option (List Char) := do
  let unsigned ← withoutPlus? (trim isBlank letters)
  let kept ← dropLeadingZeros unsigned
  let whole := dropZeroFraction kept
  return (dropUnderscores? whole).getD whole

/-- The lenient reading of an integer.  A numeral that has to be tidied first is unreadable if it
is too long. -/
def lenientInteger (text : String) : Reading :=
  match strictInteger text.toList with
  | .unreadable =>
    match (tidied? text.toList).map strictInteger with
    | some (.integer value) => .integer value
    | _ => .unreadable
  | reading => reading

/-- The exponent of a numeral: nothing, or a letter e, an optional sign and digits. -/
def exponentOf? : List Char → Option Int
  | [] => some 0
  | letter :: rest =>
    if lowerAscii letter == 'e' then do
      let (negative, digits) := splitSign rest
      guard (!digits.isEmpty)
      let values ← digits.mapM plainDigit?
      return signed negative (ofDigits 10 values)
    else none

/-- An unsigned decimal numeral with an optional fraction and exponent. -/
def decimalNumeral? (negative : Bool) (letters : List Char) : Option Binary64 := do
  let isDigit := fun letter => (plainDigit? letter).isSome
  let whole := letters.takeWhile isDigit
  let afterWhole := letters.dropWhile isDigit
  let (fraction, rest) := match afterWhole with
    | '.' :: more => (more.takeWhile isDigit, more.dropWhile isDigit)
    | _ => ([], afterWhole)
  guard (!(whole ++ fraction).isEmpty)
  let exponent ← exponentOf? rest
  let digits := (whole ++ fraction).filterMap plainDigit?
  return Binary64.ofDecimal negative (ofDigits 10 digits) (exponent - fraction.length)

/-- A floating-point numeral: an optional sign, then digits, an infinity or `nan` in any case. -/
def floatNumeral? (letters : List Char) : Option Binary64 :=
  let (negative, rest) := splitSign letters
  let word := lowerText (String.ofList rest)
  if word == "inf" || word == "infinity" then some (.infinite negative)
  else if word == "nan" then some .nan
  else decimalNumeral? negative rest

/-- The lenient reading of a floating-point number. -/
def lenientFloat? (text : String) : Option Binary64 :=
  (floatNumeral? (trim isBlank text.toList)).orElse fun _ => do
    let letters ← dropUnderscores? text.toList
    floatNumeral? letters

end Typeface.Number
