import Typeface.Text.Digit
import Typeface.Text.Encoding
import Typeface.Text.Printable

/-!
# Quoted text

The quoted form of a text stands between apostrophes, or between quotation
marks when the text holds an apostrophe and no quotation mark.  Inside, the
mark itself and the backslash follow a backslash, line feed, carriage return
and tab have letters, and every other character that does not print is written
by its number in two, four or eight lower-case hexadecimal digits.
-/

namespace Typeface.Text

def apostrophe : Char := '\''

def quotationMark : Char := '"'

def backslash : Char := '\\'

/-- The mark that encloses the quoted form. -/
def enclosingMark (letters : List Char) : Char :=
  if apostrophe ∈ letters ∧ quotationMark ∉ letters then quotationMark else apostrophe

/-- A code point by number, in the shortest of the three widths that holds it. -/
def numbered (code : Nat) : List Char :=
  if code < 0x100 then backslash :: 'x' :: hex 2 code
  else if code < 0x10000 then backslash :: 'u' :: hex 4 code
  else backslash :: 'U' :: hex 8 code

def quotedLetter (mark letter : Char) : List Char :=
  if letter = mark ∨ letter = backslash then [backslash, letter]
  else if letter = '\n' then [backslash, 'n']
  else if letter = '\r' then [backslash, 'r']
  else if letter = '\t' then [backslash, 't']
  else if isPrintable letter then [letter]
  else numbered letter.toNat

/-- Encloses the letters, each of them written for the mark in use. -/
def quotedLetters (letters : List Char) : List Char :=
  let mark := enclosingMark letters
  mark :: letters.flatMap (quotedLetter mark) ++ [mark]

def quoted (text : String) : String :=
  String.ofList (quotedLetters text.toList)

/-- A code point that need not be a character: a surrogate is always numbered. -/
def quotedPoint (mark : Char) (code : Nat) : List Char :=
  match scalar? code with
  | some letter => quotedLetter mark letter
  | none => numbered code

/-- The quoted form of a sequence of code points, surrogates included. -/
def quotedPoints (codes : List Nat) : String :=
  let mark := enclosingMark (codes.filterMap scalar?)
  String.ofList (mark :: codes.flatMap (quotedPoint mark) ++ [mark])

/-- Bytes outside printable ASCII are numbered, and the letter `b` stands in front. -/
def quotedByte (mark : Char) (byte : UInt8) : List Char :=
  if 0x20 ≤ byte.toNat ∧ byte.toNat < 0x7F ∨ byte.toNat = 9 ∨ byte.toNat = 10 ∨ byte.toNat = 13 then
    quotedLetter mark (Char.ofNat byte.toNat)
  else backslash :: 'x' :: hex 2 byte.toNat

def quotedBytes (bytes : Bytes) : String :=
  let mark := enclosingMark (bytes.map fun byte => Char.ofNat byte.toNat)
  String.ofList ('b' :: mark :: bytes.flatMap (quotedByte mark) ++ [mark])

end Typeface.Text
