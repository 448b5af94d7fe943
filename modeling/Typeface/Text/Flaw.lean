import Typeface.Text.Digit
import Typeface.Text.Encoding

/-!
# Flaws in UTF-8

A byte string that is no UTF-8 text has a first place where it goes wrong.  The
flaw there covers the bytes that begin a character and no more: those that
could still stand together before the one that does not fit, or before the end.
-/

namespace Typeface.Text

inductive FlawReason
  | noStart
  | noContinuation
  | cutOff
deriving DecidableEq, Repr

structure Flaw where
  position : Nat
  lead : UInt8
  /-- The number of bytes from the leading one that the flaw covers. -/
  length : Nat
  reason : FlawReason
deriving DecidableEq, Repr

/-- The number of bytes after a leading byte, and the least and the greatest that the first of
them may be. -/
def continuation? (lead : UInt8) : Option (Nat × UInt8 × UInt8) :=
  if lead < 0xC2 then none
  else if lead < 0xE0 then some (1, 0x80, 0xBF)
  else if lead = 0xE0 then some (2, 0xA0, 0xBF)
  else if lead = 0xED then some (2, 0x80, 0x9F)
  else if lead < 0xF0 then some (2, 0x80, 0xBF)
  else if lead = 0xF0 then some (3, 0x90, 0xBF)
  else if lead < 0xF4 then some (3, 0x80, 0xBF)
  else if lead = 0xF4 then some (3, 0x80, 0x8F)
  else none

/-- The number of fitting bytes and the reason, where fewer fit than a character needs. -/
def misfit? (least greatest : UInt8) : Nat → Bytes → Option (Nat × FlawReason)
  | 0, _ => none
  | _ + 1, [] => some (0, .cutOff)
  | needed + 1, byte :: rest =>
    if least ≤ byte ∧ byte ≤ greatest then
      (misfit? 0x80 0xBF needed rest).map fun found => (found.1 + 1, found.2)
    else some (0, .noContinuation)

/-- The first flaw in the bytes from a position on. -/
def flawFrom? (position : Nat) : Bytes → Option Flaw
  | [] => none
  | lead :: rest =>
    if lead < 0x80 then flawFrom? (position + 1) rest
    else
      match continuation? lead with
      | none => some { position, lead, length := 1, reason := .noStart }
      | some (needed, least, greatest) =>
        match misfit? least greatest needed rest with
        | some (fitting, reason) => some { position, lead, length := fitting + 1, reason }
        | none => flawFrom? (position + needed + 1) (rest.drop needed)
termination_by bytes => bytes.length
decreasing_by all_goals grind

/-- The first flaw in a byte string. -/
def flaw? (bytes : Bytes) : Option Flaw :=
  flawFrom? 0 bytes

namespace FlawReason

def message : FlawReason → String
  | noStart => "invalid start byte"
  | noContinuation => "invalid continuation byte"
  | cutOff => "unexpected end of data"

end FlawReason

namespace Flaw

/-- A flaw of one byte is told with the byte, a longer one with its first and last position. -/
def message (flaw : Flaw) : String :=
  let place :=
    if flaw.length = 1 then
      s!"byte 0x{String.ofList (hex 2 flaw.lead.toNat)} in position {flaw.position}"
    else s!"bytes in position {flaw.position}-{flaw.position + flaw.length - 1}"
  s!"'utf-8' codec can't decode {place}: {flaw.reason.message}"

end Flaw

end Typeface.Text
