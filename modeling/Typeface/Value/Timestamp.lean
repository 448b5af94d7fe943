import Typeface.Number.Decimal
import Typeface.Value

/-!
# Timestamps in writing

The literal of a timestamp is the call that builds it.  Its text is the day, and
behind a blank the time of day, with a fraction and an offset where it has them.
-/

namespace Typeface.Timestamp

open Typeface.Number

/-- Numbers with commas between them. -/
def commaList (numbers : List Nat) : String :=
  ", ".intercalate (numbers.map fun (number : Nat) => decimal number)

/-- The zone of an offset.  An offset to the west is written as a day back and the rest of that
day. -/
def zoneLiteral (minutes : Int) : String :=
  if minutes = 0 then "datetime.timezone.utc"
  else if minutes < 0 then
    let seconds := decimal ((minutes + 24 * 60) * 60)
    s!"datetime.timezone(datetime.timedelta(days=-1, seconds={seconds}))"
  else s!"datetime.timezone(datetime.timedelta(seconds={decimal (minutes * 60)}))"

/-- Seconds and microseconds, without zeros at the end. -/
def finerParts (time : ClockTime) : List Nat :=
  if time.microsecond ≠ 0 then [time.second, time.microsecond]
  else if time.second ≠ 0 then [time.second]
  else []

def literal (stamp : Timestamp) : String :=
  let day := [stamp.year, stamp.month, stamp.day]
  match stamp.time with
  | none => s!"datetime.date({commaList day})"
  | some time =>
    let parts := commaList (day ++ [time.hour, time.minute] ++ finerParts time)
    match time.offset with
    | none => s!"datetime.datetime({parts})"
    | some minutes => s!"datetime.datetime({parts}, tzinfo={zoneLiteral minutes})"

/-- A number in at least `width` digits. -/
def padded (width value : Nat) : String :=
  String.ofList (paddedDigits width value)

/-- An offset by its sign, hours and minutes. -/
def zoneText (minutes : Int) : String :=
  let sign := if minutes < 0 then "-" else "+"
  s!"{sign}{padded 2 (minutes.natAbs / 60)}:{padded 2 (minutes.natAbs % 60)}"

def clockText (time : ClockTime) : String :=
  let fraction := if time.microsecond = 0 then "" else "." ++ padded 6 time.microsecond
  let zone := (time.offset.map zoneText).getD ""
  s!"{padded 2 time.hour}:{padded 2 time.minute}:{padded 2 time.second}{fraction}{zone}"

def text (stamp : Timestamp) : String :=
  let day := s!"{padded 4 stamp.year}-{padded 2 stamp.month}-{padded 2 stamp.day}"
  match stamp.time with
  | none => day
  | some time => s!"{day} {clockText time}"

end Typeface.Timestamp
