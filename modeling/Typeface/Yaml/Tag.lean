import Typeface.Text.Digit
import Typeface.Value

/-!
# Tags

The type of a YAML node.  A plain text that names no type has the one that its
form suggests: the words for truth, numbers in several bases, days and moments.
-/

namespace Typeface.Yaml

open Typeface.Text

inductive Tag
  | null
  | bool
  | int
  | float
  | binary
  | timestamp
  | text
  | list
  | mapping
  | set
  | pairs
  /-- Mappings whose entries are taken over. -/
  | merge
  /-- The value that stands for a whole mapping. -/
  | standIn
  /-- A type with no values. -/
  | unknown
deriving DecidableEq, Repr

namespace Tag

/-- The tag of a full name. -/
def ofName (name : String) : Tag :=
  match name with
  | "tag:yaml.org,2002:null" => null
  | "tag:yaml.org,2002:bool" => bool
  | "tag:yaml.org,2002:int" => int
  | "tag:yaml.org,2002:float" => float
  | "tag:yaml.org,2002:binary" => binary
  | "tag:yaml.org,2002:timestamp" => timestamp
  | "tag:yaml.org,2002:str" => text
  | "tag:yaml.org,2002:seq" => list
  | "tag:yaml.org,2002:map" => mapping
  | "tag:yaml.org,2002:set" => set
  | "tag:yaml.org,2002:omap" => pairs
  | "tag:yaml.org,2002:pairs" => pairs
  | "tag:yaml.org,2002:merge" => merge
  | "tag:yaml.org,2002:value" => standIn
  | _ => unknown

end Tag

namespace Form

/-- A word in small letters, in capitals, or with one capital in front. -/
def spellings (word : String) : List String :=
  [word, word.capitalize, word.toUpper]

def trueWords : List String := ["yes", "true", "on"].flatMap spellings

def falseWords : List String := ["no", "false", "off"].flatMap spellings

def nullWords : List String := ["", "~"] ++ spellings "null"

def infinityWords : List String := [".inf", ".Inf", ".INF"]

def notNumberWords : List String := [".nan", ".NaN", ".NAN"]

def isDigit (letter : Char) : Bool :=
  (plainDigit? letter).isSome

/-- Digits of a base below ten, and underscores between them or around them. -/
def isDigitBelow (base : Nat) (letter : Char) : Bool :=
  letter == '_' || (plainDigit? letter).any (· < base)

def isHexDigit (letter : Char) : Bool :=
  letter == '_' || (hexDigit? letter).isSome

def dropSign : List Char → List Char
  | '+' :: rest => rest
  | '-' :: rest => rest
  | letters => letters

def hasSign (letters : List Char) : Bool :=
  letters.head? == some '+' || letters.head? == some '-'

/-- Digits and underscores that begin with a digit. -/
def isNumeral (letters : List Char) : Bool :=
  letters.head?.any isDigit && letters.all (isDigitBelow 10)

/-- A numeral that does not begin with zero. -/
def isCountingNumeral (letters : List Char) : Bool :=
  isNumeral letters && letters.head? != some '0'

/-- The parts between colons. -/
def splitColons : List Char → List (List Char)
  | [] => [[]]
  | ':' :: rest => [] :: splitColons rest
  | letter :: rest =>
    match splitColons rest with
    | first :: others => (letter :: first) :: others
    | [] => [[letter]]

/-- A number below sixty in one or two digits. -/
def isSixtieth : List Char → Bool
  | [only] => isDigit only
  | [tens, ones] => '0' ≤ tens && tens ≤ '5' && isDigit ones
  | _ => false

/-- Whether a text is an integer: binary, octal, decimal, hexadecimal or to the base sixty. -/
def isInteger (letters : List Char) : Bool :=
  match dropSign letters with
  | '0' :: 'b' :: digits => !digits.isEmpty && digits.all (isDigitBelow 2)
  | '0' :: 'x' :: digits => !digits.isEmpty && digits.all isHexDigit
  | '0' :: digits => digits.all (isDigitBelow 8)
  | unsigned =>
    match splitColons unsigned with
    | [] => false
    | first :: others => isCountingNumeral first && others.all isSixtieth

/-- An exponent with its sign, or nothing. -/
def isExponent : List Char → Bool
  | [] => true
  | letter :: rest =>
    (letter == 'e' || letter == 'E') && hasSign rest && !rest.tail.isEmpty &&
      rest.tail.all isDigit

/-- A point, digits that may be missing, and an exponent that may be missing. -/
def isFraction : List Char → Bool
  | '.' :: rest => isExponent (rest.dropWhile (isDigitBelow 10))
  | _ => false

/-- Whether parts between colons are a number to the base sixty with a fraction. -/
def isSixtiethFraction (parts : List (List Char)) : Bool :=
  match parts, parts.getLast? with
  | first :: others@(_ :: _), some last =>
    isNumeral first && (others.dropLast.all isSixtieth) &&
      isSixtieth (last.takeWhile (· != '.')) &&
      (match last.dropWhile (· != '.') with
        | '.' :: fraction => fraction.all (isDigitBelow 10)
        | _ => false)
  | _, _ => false

/-- Whether a text is a number with a point. -/
def isFloat (letters : List Char) : Bool :=
  let unsigned := dropSign letters
  let whole := unsigned.takeWhile (isDigitBelow 10)
  (isNumeral whole && isFraction (unsigned.dropWhile (isDigitBelow 10))) ||
    (match letters with
      | '.' :: digit :: _ => isDigit digit && isFraction letters
      | _ => false) ||
    isSixtiethFraction (splitColons unsigned) ||
    infinityWords.contains (String.ofList unsigned) ||
    notNumberWords.contains (String.ofList letters)

end Form

/-- A timestamp as it is written: its fields are digits, and need not name a real moment. -/
structure Written where
  year : Nat
  month : Nat
  day : Nat
  time : Option ClockTime
  /-- Whether month and day have two digits each. -/
  padded : Bool

namespace Written

def number (digits : List Char) : Nat :=
  ofDigits 10 (digits.filterMap plainDigit?)

/-- Between some least and greatest number of digits at the front, as many as there are. -/
def digits? (least greatest : Nat) (letters : List Char) : Option (List Char × List Char) :=
  let digits := (letters.take greatest).takeWhile Form.isDigit
  if digits.length < least then none else some (digits, letters.drop digits.length)

def expect? (mark : Char) : List Char → Option (List Char)
  | letter :: rest => if letter == mark then some rest else none
  | [] => none

def isInner (letter : Char) : Bool :=
  letter == ' ' || letter == '\t'

/-- Minutes east of the prime meridian, and whether they are given at all. -/
def offset? (letters : List Char) : Option (Option Int) :=
  match letters, letters.dropWhile isInner with
  | [], _ => some none
  | _, ['Z'] => some (some 0)
  | _, sign :: rest =>
    if sign == '+' || sign == '-' then do
      let (hours, rest) ← digits? 1 2 rest
      let minutes ← match rest with
        | [] => some 0
        | _ => do
          let (minutes, rest) ← (expect? ':' rest).bind (digits? 2 2)
          if rest.isEmpty then some (number minutes) else none
      let total : Int := (number hours * 60 + minutes : Nat)
      return some (if sign == '-' then -total else total)
    else none
  | _, [] => none

/-- The time of day after a date. -/
def time? (letters : List Char) : Option ClockTime := do
  let (hour, rest) ← digits? 1 2 letters
  let (minute, rest) ← (expect? ':' rest).bind (digits? 2 2)
  let (second, rest) ← (expect? ':' rest).bind (digits? 2 2)
  let (fraction, rest) := match rest with
    | '.' :: more => (more.takeWhile Form.isDigit, more.dropWhile Form.isDigit)
    | _ => ([], rest)
  let offset ← offset? rest
  let places := fraction.take 6
  return {
    hour := number hour
    minute := number minute
    second := number second
    microsecond := number (places ++ List.replicate (6 - places.length) '0')
    offset }

def ofLetters? (letters : List Char) : Option Written := do
  let (year, rest) ← digits? 4 4 letters
  let (month, rest) ← (expect? '-' rest).bind (digits? 1 2)
  let (day, rest) ← (expect? '-' rest).bind (digits? 1 2)
  let time ← match rest with
    | [] => some none
    | mark :: more =>
      if mark == 'T' || mark == 't' then (time? more).map some
      else if isInner mark then (time? (more.dropWhile isInner)).map some
      else none
  return {
    year := number year
    month := number month
    day := number day
    time
    padded := month.length == 2 && day.length == 2 }

def daysInMonth (year month : Nat) : Nat :=
  if month = 2 then
    if year % 4 = 0 ∧ (year % 100 ≠ 0 ∨ year % 400 = 0) then 29 else 28
  else if month ∈ [4, 6, 9, 11] then 30
  else 31

def isRealTime (time : ClockTime) : Bool :=
  time.hour < 24 && time.minute < 60 && time.second < 60 &&
    time.offset.all fun (minutes : Int) => minutes.natAbs < 24 * 60

/-- The moment that a timestamp names, if there is one. -/
def timestamp? (written : Written) : Option Timestamp :=
  if 1 ≤ written.year ∧ 1 ≤ written.month ∧ written.month ≤ 12 ∧ 1 ≤ written.day ∧
      written.day ≤ daysInMonth written.year written.month ∧ written.time.all isRealTime then
    some {
      year := written.year
      month := written.month
      day := written.day
      time := written.time }
  else none

end Written

/-- The tag that the form of a plain text suggests. -/
def Tag.ofForm (letters : List Char) : Tag :=
  let word := String.ofList letters
  if Form.trueWords.contains word || Form.falseWords.contains word then .bool
  else if Form.isFloat letters then .float
  else if Form.isInteger letters then .int
  else if word == "<<" then .merge
  else if Form.nullWords.contains word then .null
  else if (Written.ofLetters? letters).any fun written => written.padded || written.time.isSome then
    .timestamp
  else if word == "=" then .standIn
  else if word == "!" || word == "&" || word == "*" then .unknown
  else .text

end Typeface.Yaml
