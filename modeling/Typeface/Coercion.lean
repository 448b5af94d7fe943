import Typeface.Complaint
import Typeface.Number.Numeral
import Typeface.Value.Equality
import Typeface.Value.Display

/-!
# Coercion

Fields of records have a type, and values of other types fit where they spell a
value of it: bytes spell a text, a text spells a number, a number that is one or
zero spells a truth value, and a member of an enumeration spells its code.  What
does not fit is a defect.
-/

namespace Typeface.Coercion

open Typeface.Number
open Typeface.Text

/-- The text of a member of an enumeration. -/
def memberText? (value : Value) : Option String :=
  (Value.underlying? value).bind Value.display?

/-- A text, with its surrogates if it has some. -/
def text (value : Value) : Except Defect HostText :=
  match value with
  | .text content => .ok content
  | .brokenText content => .ok { codes := content.codes }
  | .bytes content =>
    match utf8? content with
    | some decoded => .ok decoded
    | none => .error .textEncoding
  | other =>
    match memberText? other with
    | some shown => .ok shown
    | none => .error .notText

def integerOfText (content : String) : Except Defect Int :=
  match lenientInteger content with
  | .integer value => .ok value
  | .unreadable => .error .integerUnreadable
  | .tooLong => .error .integerTooLong

/-- The magnitude of the least integer of 64 bits. -/
def machineBound : Int := 0x8000000000000000

/-- Integers of 64 bits, without the least one. -/
def isMachineInteger (value : Int) : Bool :=
  -machineBound < value && value < machineBound

def integerOfFloat (value : Binary64) : Except Defect Int :=
  if !value.isFinite then .error .notFinite
  else
    match value.toInt? with
    | none => .error .integerHasFraction
    | some whole => if isMachineInteger whole then .ok whole else .error .integerTooLong

def integer (value : Value) : Except Defect Int :=
  match value with
  | .bool truth => .ok (if truth then 1 else 0)
  | .int whole => .ok whole
  | .documentWeight weight => .ok weight.code
  | .documentStyle style => .ok style.code
  | .weight weight => .ok weight.code
  | .style style => .ok style.code
  | .float number => integerOfFloat number
  | .text content => integerOfText content
  | .brokenText _ => .error .textEncoding
  | .bytes content =>
    match utf8? content with
    | some decoded => integerOfText decoded
    | none => .error .integerUnreadable
  | _ => .error .notInteger

/-- An identifier.  A vocabulary is taken by its title, which nothing checks. -/
def identifier (value : Value) : Except Defect Identifier :=
  match value with
  | .vocabulary known => .ok (.title known)
  | other => (integer other).map .number

def floatOfInteger (value : Int) : Except Defect Binary64 :=
  match Binary64.ofInt value with
  | .finite negative significand exponent => .ok (.finite negative significand exponent)
  | _ => .error .notNumber

def floatOfText (content : String) : Except Defect Binary64 :=
  match lenientFloat? content with
  | some number => .ok number
  | none => .error .numberUnreadable

def float (value : Value) : Except Defect Binary64 :=
  match value with
  | .float number => .ok number
  | .bool truth => floatOfInteger (if truth then 1 else 0)
  | .int whole => floatOfInteger whole
  | .documentWeight weight => floatOfInteger weight.code
  | .documentStyle style => floatOfInteger style.code
  | .text content => floatOfText content
  | .brokenText _ => .error .textEncoding
  | .bytes content =>
    match utf8? content with
    | some decoded => floatOfText decoded
    | none => .error .numberUnreadable
  | _ => .error .notNumber

def trueWords : List String := ["1", "on", "t", "true", "y", "yes"]

def falseWords : List String := ["0", "off", "f", "false", "n", "no"]

/-- A truth value from a word, whatever the case of its letters. -/
def truthOfText (content : String) : Except Defect Bool :=
  let word := lowerText content
  if word ∈ trueWords then .ok true
  else if word ∈ falseWords then .ok false
  else .error .truthUnreadable

def truthOfInteger (value : Int) : Except Defect Bool :=
  if value = 1 then .ok true
  else if value = 0 then .ok false
  else if isMachineInteger value || value = -machineBound then .error .truthUnreadable
  else .error .notTruth

def truth (value : Value) : Except Defect Bool :=
  match value with
  | .bool known => .ok known
  | .int whole => truthOfInteger whole
  | .documentWeight weight => truthOfInteger weight.code
  | .documentStyle style => truthOfInteger style.code
  | .float number =>
    match number.toInt? with
    | some whole => if isMachineInteger whole then truthOfInteger whole else .error .notTruth
    | none => .error .notTruth
  | .text content => truthOfText content
  | .brokenText _ => .error .textEncoding
  | .bytes content =>
    match utf8? content with
    | some decoded => truthOfText decoded
    | none => .error .truthUnreadable
  | _ => .error .notTruth

/-- The code of an enumeration that a value spells. -/
def code (codes : List Nat) (value : Value) : Except Defect Nat :=
  match integer value with
  | .error _ => .error (.unknownCode codes)
  | .ok whole =>
    if isMachineInteger whole || whole = -machineBound then
      match codes.find? fun (known : Nat) => (known : Int) == whole with
      | some known => .ok known
      | none => .error (.unknownCode codes)
    else .error .integerTooLong

/-- A field that may also be empty. -/
def optional {α : Type} (coerce : Value → Except Defect α) : Value → Except Defect (Option α)
  | .null => .ok none
  | value => (coerce value).map some

/-- A text with at least one character.  It is measured in characters, so that it must be made of
them. -/
def nonemptyText (value : Value) : Except Defect String := do
  let content ← text value
  match content.plain? with
  | none => .error .textEncoding
  | some content => if content.isEmpty then .error .textTooShort else .ok content

/-- An integer on which a bound is put.  The title of a vocabulary is refused then. -/
def comparable (value : Value) : Except Defect Int :=
  match value with
  | .vocabulary _ => .error .integerUnreadable
  | other => integer other

def natural (value : Value) : Except Defect Int := do
  let whole ← comparable value
  if whole < 0 then .error .negative else .ok whole

def positiveInteger (value : Value) : Except Defect Int := do
  let whole ← comparable value
  if whole ≤ 0 then .error .notPositive else .ok whole

def positiveFloat (value : Value) : Except Defect Binary64 := do
  let number ← float value
  if number.isPositive then .ok number else .error .notPositive

end Typeface.Coercion
