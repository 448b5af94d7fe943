import Typeface.Number.Numeral
import Typeface.Value.Equality

/-!
# Decoding of JSON

`decode` reads a JSON text into a value.  Beside the standard it knows the
numbers `NaN`, `Infinity` and `-Infinity`; of two members with one name the
later counts, and a text may hold lone surrogates.  Lists and objects nest to a
depth that the reader is given.
-/

namespace Typeface.Json

open Typeface.Number
open Typeface.Text

/-- Why a text has no value: it is not JSON, or holds an integer of too many digits, or nests too
deep. -/
inductive Problem
  | malformed
  | oversized
  | tooDeep
deriving DecidableEq, Repr

/-- What was read, and the text that remains. -/
abbrev Reading (α : Type) := Except Problem (α × List Char)

def isBlank (letter : Char) : Bool :=
  letter == ' ' || letter == '\t' || letter == '\n' || letter == '\r'

def skipBlanks (letters : List Char) : List Char :=
  letters.dropWhile isBlank

/-- The code of a character that has a short escape. -/
def shortEscape? : Char → Option Nat
  | '"' => some 0x22
  | '\\' => some 0x5C
  | '/' => some 0x2F
  | 'b' => some 8
  | 'f' => some 12
  | 'n' => some 10
  | 'r' => some 13
  | 't' => some 9
  | _ => none

/-- The code points up to the closing quotation mark. -/
def stringCodes : List Char → Reading (List Nat)
  | '"' :: rest => .ok ([], rest)
  | '\\' :: 'u' :: first :: second :: third :: fourth :: rest =>
    match [first, second, third, fourth].mapM hexDigit? with
    | none => .error .malformed
    | some digits =>
      match stringCodes rest with
      | .ok (codes, left) => .ok (ofDigits 16 digits :: codes, left)
      | .error problem => .error problem
  | '\\' :: letter :: rest =>
    match shortEscape? letter, stringCodes rest with
    | some code, .ok (codes, left) => .ok (code :: codes, left)
    | some _, .error problem => .error problem
    | none, _ => .error .malformed
  | letter :: rest =>
    if letter.toNat < 0x20 then .error .malformed
    else
      match stringCodes rest with
      | .ok (codes, left) => .ok (letter.toNat :: codes, left)
      | .error problem => .error problem
  | [] => .error .malformed

/-- Replaces surrogate pairs by the characters they stand for. -/
def joinPairs : List Nat → List Nat
  | high :: low :: rest =>
    if isHighSurrogate high && isLowSurrogate low then
      joinSurrogates high low :: joinPairs rest
    else high :: joinPairs (low :: rest)
  | codes => codes

/-- A string, after its opening quotation mark. -/
def string (letters : List Char) : Reading Value :=
  match stringCodes letters with
  | .ok (codes, rest) => .ok (Value.ofCodes (joinPairs codes), rest)
  | .error problem => .error problem

def isDigit (letter : Char) : Bool :=
  (plainDigit? letter).isSome

/-- The digits of a fraction, if a point and a digit come next. -/
def fraction (letters : List Char) : Option (List Char × List Char) :=
  match letters with
  | '.' :: rest =>
    let digits := rest.takeWhile isDigit
    if digits.isEmpty then none else some (digits, rest.dropWhile isDigit)
  | _ => none

/-- The exponent, if a letter e and a number come next. -/
def exponent (letters : List Char) : Option (Int × List Char) :=
  match letters with
  | letter :: rest =>
    if letter == 'e' || letter == 'E' then
      let (negative, unsigned) := splitSign rest
      let digits := unsigned.takeWhile isDigit
      if digits.isEmpty then none
      else
        let magnitude := ofDigits 10 (digits.filterMap plainDigit?)
        some (signed negative magnitude, unsigned.dropWhile isDigit)
    else none
  | [] => none

/-- The integer part: a lone zero, or digits that do not begin with zero. -/
def wholeDigits (letters : List Char) : List Char × List Char :=
  match letters with
  | '0' :: rest => (['0'], rest)
  | _ => (letters.takeWhile isDigit, letters.dropWhile isDigit)

/-- A number without its sign. -/
def unsignedNumber (negative : Bool) (letters : List Char) : Reading Value :=
  let (whole, afterWhole) := wholeDigits letters
  let wholeValue := ofDigits 10 (whole.filterMap plainDigit?)
  if whole.isEmpty then .error .malformed
  else
    let part := fraction afterWhole
    let (places, afterFraction) := part.getD ([], afterWhole)
    let scale := exponent afterFraction
    match part, scale with
    | none, none =>
      if digitLimit < whole.length then .error .oversized
      else .ok (.int (signed negative wholeValue), afterWhole)
    | _, _ =>
      let (power, rest) := scale.getD (0, afterFraction)
      let digits := ofDigits 10 ((whole ++ places).filterMap plainDigit?)
      .ok (.float (Binary64.ofDecimal negative digits (power - places.length)), rest)

def number (letters : List Char) : Reading Value :=
  match letters with
  | '-' :: 'I' :: 'n' :: 'f' :: 'i' :: 'n' :: 'i' :: 't' :: 'y' :: rest =>
    .ok (.float (.infinite true), rest)
  | '-' :: rest => unsignedNumber true rest
  | _ => unsignedNumber false letters

mutual

/-- A value at the front of a text.  The first argument is the depth to which lists and objects may
nest in it, and the second one bounds the walk. -/
def value : Nat → Nat → List Char → Reading Value
  | _, 0, _ => .error .malformed
  | depth, steps + 1, letters =>
    match letters with
    | '"' :: rest => string rest
    | '\x7b' :: rest =>
      match depth with
      | 0 => .error .tooDeep
      | inner + 1 =>
        match skipBlanks rest with
        | '\x7d' :: left => .ok (.dict [], left)
        | more =>
          match members inner steps more with
          | .ok (entries, left) => .ok (Value.ofEntries entries, left)
          | .error problem => .error problem
    | '[' :: rest =>
      match depth with
      | 0 => .error .tooDeep
      | inner + 1 =>
        match skipBlanks rest with
        | ']' :: left => .ok (.list [], left)
        | more =>
          match items inner steps more with
          | .ok (values, left) => .ok (.list values, left)
          | .error problem => .error problem
    | 'n' :: 'u' :: 'l' :: 'l' :: rest => .ok (.null, rest)
    | 't' :: 'r' :: 'u' :: 'e' :: rest => .ok (.bool true, rest)
    | 'f' :: 'a' :: 'l' :: 's' :: 'e' :: rest => .ok (.bool false, rest)
    | 'N' :: 'a' :: 'N' :: rest => .ok (.float .nan, rest)
    | 'I' :: 'n' :: 'f' :: 'i' :: 'n' :: 'i' :: 't' :: 'y' :: rest =>
      .ok (.float (.infinite false), rest)
    | _ => number letters

/-- The items of a list up to its closing bracket. -/
def items : Nat → Nat → List Char → Reading (List Value)
  | _, 0, _ => .error .malformed
  | depth, steps + 1, letters =>
    match value depth steps letters with
    | .error problem => .error problem
    | .ok (first, left) =>
      match skipBlanks left with
      | ']' :: rest => .ok ([first], rest)
      | ',' :: rest =>
        match items depth steps (skipBlanks rest) with
        | .ok (others, rest) => .ok (first :: others, rest)
        | .error problem => .error problem
      | _ => .error .malformed

/-- The members of an object up to its closing brace. -/
def members : Nat → Nat → List Char → Reading (List (Value × Value))
  | _, 0, _ => .error .malformed
  | depth, steps + 1, letters =>
    match letters with
    | '"' :: afterMark =>
      match string afterMark with
      | .error problem => .error problem
      | .ok (name, left) =>
        match skipBlanks left with
        | ':' :: rest =>
          match value depth steps (skipBlanks rest) with
          | .error problem => .error problem
          | .ok (content, left) =>
            match skipBlanks left with
            | '\x7d' :: rest => .ok ([(name, content)], rest)
            | ',' :: rest =>
              match members depth steps (skipBlanks rest) with
              | .ok (others, rest) => .ok ((name, content) :: others, rest)
              | .error problem => .error problem
            | _ => .error .malformed
        | _ => .error .malformed
    | _ => .error .malformed

end

/-- The value of a whole text, in which lists and objects nest no deeper than given. -/
def decode (depth : Nat) (text : String) : Except Problem Value :=
  let letters := text.toList
  match value depth (letters.length + 1) (skipBlanks letters) with
  | .error problem => .error problem
  | .ok (result, rest) => if (skipBlanks rest).isEmpty then .ok result else .error .malformed

end Typeface.Json
