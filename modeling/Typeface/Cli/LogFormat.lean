import Typeface.Text.Alphanumeric
import Typeface.Text.Digit
import Typeface.Text.Host
import Typeface.Text.Letter

/-!
# Log formats

A log format is a text with fields, each of them a percent sign, a name in
parentheses, flags, a width, a precision and a letter.  A format without any
field is refused.
-/

namespace Typeface.Cli.LogFormat

open Typeface.Text

def isNameLetter (letter : Char) : Bool :=
  isAlphanumeric letter || letter == '_'

def isFlag (letter : Char) : Bool :=
  letter == '#' || letter == '0' || letter == '+' || letter == ' ' || letter == '-'

def isDigit (letter : Char) : Bool :=
  (digitValue? letter).isSome

/-- The letters that end a field, in either case; two more letters have their capitals. -/
def isConversion (letter : Char) : Bool :=
  "diouxefgcrsa%\u0131\u0130\u017F".toList.contains (lowerAscii letter)

/-- What follows a width: an asterisk, or digits. -/
def skipCount? : List Char → Option (List Char)
  | '*' :: rest => some rest
  | letter :: rest => if isDigit letter then some (rest.dropWhile isDigit) else none
  | [] => none

/-- Whether a field ends here, after its name. -/
def endsField (letters : List Char) : Bool :=
  let afterFlags := letters.dropWhile isFlag
  let afterWidth := (skipCount? afterFlags).getD afterFlags
  let afterPrecision := match afterWidth with
    | '.' :: rest => (skipCount? rest).getD afterWidth
    | _ => afterWidth
  afterPrecision.head?.any isConversion

/-- Whether a field begins here. -/
def startsField : List Char → Bool
  | '%' :: '(' :: rest =>
    match rest.dropWhile isNameLetter with
    | ')' :: after => rest.head? != some ')' && endsField after
    | _ => false
  | _ => false

def hasField : List Char → Bool
  | [] => false
  | letter :: rest => startsField (letter :: rest) || hasField rest

/-- A format that is accepted.  An empty one means the standard format.  Surrogates are no part of a
field. -/
def isValid (format : HostText) : Bool :=
  format.isEmpty || hasField format.letters

end Typeface.Cli.LogFormat
