import Typeface.Text.Encoding

/-!
# Base 64

Four characters carry three bytes.  Characters outside the alphabet are passed
over.  Padding that completes a group ends the text; what is left of a group
without it is refused.
-/

namespace Typeface.Text

def sextet? (letter : Char) : Option Nat :=
  if 'A' ≤ letter ∧ letter ≤ 'Z' then some (letter.toNat - 'A'.toNat)
  else if 'a' ≤ letter ∧ letter ≤ 'z' then some (letter.toNat - 'a'.toNat + 26)
  else if '0' ≤ letter ∧ letter ≤ '9' then some (letter.toNat - '0'.toNat + 52)
  else if letter = '+' then some 62
  else if letter = '/' then some 63
  else none

/-- The bytes of the sextets of a group. -/
def groupBytes : List Nat → Bytes
  | [first, second] => [(first * 4 + second / 16).toUInt8]
  | [first, second, third] =>
    [(first * 4 + second / 16).toUInt8, (second % 16 * 16 + third / 4).toUInt8]
  | [first, second, third, fourth] =>
    [(first * 4 + second / 16).toUInt8, (second % 16 * 16 + third / 4).toUInt8,
      (third % 4 * 64 + fourth).toUInt8]
  | _ => []

/-- Decodes with the sextets of the current group and the padding right before the place. -/
def base64From? (group : List Nat) (padding : Nat) : List Char → Option Bytes
  | [] => if group.isEmpty then some [] else none
  | letter :: rest =>
    if letter = '=' then
      if 2 ≤ group.length then
        if 4 ≤ group.length + (padding + 1) then some (groupBytes group)
        else base64From? group (padding + 1) rest
      else base64From? group padding rest
    else
      match sextet? letter with
      | none => base64From? group padding rest
      | some value =>
        let grown := group ++ [value]
        if grown.length = 4 then (base64From? [] 0 rest).map (groupBytes grown ++ ·)
        else base64From? grown 0 rest

def base64? (letters : List Char) : Option Bytes :=
  base64From? [] 0 letters

end Typeface.Text
