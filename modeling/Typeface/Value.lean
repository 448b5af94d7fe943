import Typeface.Document.Style
import Typeface.Document.Weight
import Typeface.Number.Binary64
import Typeface.Release.Record
import Typeface.Style
import Typeface.Text.Host
import Typeface.Vocabulary
import Typeface.Weight

/-!
# Values

What a host program can hand over, and what settings files and release lists
decode to.  Descriptors leave their font family unchecked, so values of every
sort reach them, and an item keeps whatever it was given as vocabulary and name.
-/

namespace Typeface

open Typeface.Number

/-- The time of day of a timestamp. -/
structure ClockTime where
  hour : Nat
  minute : Nat
  second : Nat
  microsecond : Nat
  /-- Minutes east of the prime meridian, where the timestamp says so. -/
  offset : Option Int
deriving DecidableEq, Repr

/-- A day, or a moment of a day. -/
structure Timestamp where
  year : Nat
  month : Nat
  day : Nat
  time : Option ClockTime
deriving DecidableEq, Repr

inductive Value
  | null
  | bool (value : Bool)
  | int (value : Int)
  | float (value : Binary64)
  | text (value : String)
  /-- A text in which some code point is a surrogate. -/
  | brokenText (value : BrokenText)
  | bytes (value : Text.Bytes)
  | list (items : List Value)
  | tuple (items : List Value)
  | set (items : List Value)
  /-- Keys are distinct and keep the order in which they were first given. -/
  | dict (entries : List (Value × Value))
  | timestamp (value : Timestamp)
  | weight (value : Weight)
  | style (value : Style)
  | documentWeight (value : Document.Weight)
  | documentStyle (value : Document.Style)
  | vocabulary (value : Vocabulary)
  | item (vocabulary name : Value)
  | descriptor (family : Value) (weight : Weight) (style : Style)
  | asset (value : Asset)
  | release (value : Release)
deriving Repr

namespace Value

instance : Inhabited Value := ⟨null⟩

/-- The value that a member of an enumeration stands for. -/
def underlying? : Value → Option Value
  | weight value => some (int value.code)
  | style value => some (int value.code)
  | documentWeight value => some (int value.code)
  | documentStyle value => some (int value.code)
  | vocabulary value => some (text value.title)
  | _ => none

/-- The integer that a value is.  Truth values are not integers here. -/
def integer? : Value → Option Int
  | int value => some value
  | documentWeight value => some value.code
  | documentStyle value => some value.code
  | _ => none

/-- Whether a value counts as given: nothing, no truth, zero and what is empty do not. -/
def isGiven : Value → Bool
  | null => false
  | bool truth => truth
  | int value => value != 0
  | float (.finite _ significand _) => significand != 0
  | text content => !content.isEmpty
  | bytes content => !content.isEmpty
  | list items | tuple items | set items => !items.isEmpty
  | dict entries => !entries.isEmpty
  | documentStyle value => value.code != 0
  | _ => true

/-- The vocabulary that an item, a weight or a style belongs to. -/
def vocabularyOf? : Value → Option Value
  | item owner _ => some owner
  | weight _ => some (vocabulary .weightScale)
  | style _ => some (vocabulary .styleKind)
  | _ => none

def ofOption {α : Type} (embed : α → Value) : Option α → Value
  | some value => embed value
  | none => null

/-- The code points of a text. -/
def codesOf (content : String) : List Nat :=
  content.toList.map Char.toNat

/-- The text of a list of code points, which is broken if one of them is a surrogate. -/
def ofCodes (codes : List Nat) : Value :=
  match hletters : codes.mapM Text.scalar? with
  | some letters => text (String.ofList letters)
  | none => brokenText { codes, broken := hletters }

/-- The code points of a value that is a text. -/
def hostText? : Value → Option HostText
  | text content => some content
  | brokenText content => some { codes := content.codes }
  | _ => none

/-- The word for the sort of a value in messages. -/
def sort : Value → String
  | null => "NoneType"
  | bool _ => "bool"
  | int _ => "int"
  | float _ => "float"
  | text _ => "str"
  | brokenText _ => "str"
  | bytes _ => "bytes"
  | list _ => "list"
  | tuple _ => "tuple"
  | set _ => "set"
  | dict _ => "dict"
  | timestamp stamp => if stamp.time.isSome then "datetime" else "date"
  | weight _ => "WeightScale"
  | style _ => "StyleKind"
  | documentWeight _ => "DocumentFontWeight"
  | documentStyle _ => "DocumentFontStyle"
  | vocabulary _ => "EnumFamily"
  | item .. => "EnumItem"
  | descriptor .. => "FontDescriptor"
  | asset _ => "ReleaseAsset"
  | release _ => "Release"

end Value

/-- A host text as a value. -/
def HostText.value (text : HostText) : Value :=
  .ofCodes text.codes

end Typeface
