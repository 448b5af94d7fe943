import Typeface.Number.Numeral
import Typeface.Number.Shortest
import Typeface.Text.Quoted
import Typeface.Value.Timestamp

/-!
# Display of values

`literal` writes a value so that its sort shows: texts are quoted and members
of enumerations carry their identifier and code.  `display` writes a text as it
stands, a weight by its name and a timestamp by its day and time.  Integers are
written up to the number of digits that numerals may have, and an item whose
vocabulary is not a member of an enumeration has no display.  `points` keeps the
surrogates that `display` has to number: messages embed the text of these code
points, which is `spoken`, and `shown` is that text as a value.
-/

namespace Typeface.Value

open Typeface.Number
open Typeface.Text

def member (owner identifier code : String) : String :=
  s!"<{owner}.{identifier}: {code}>"

def truthLiteral (value : Bool) : String :=
  if value then "True" else "False"

def optionalLiteral (text : Option HostText) : String :=
  match text with
  | none => "None"
  | some text => quotedPoints text.codes

def identifierLiteral : Identifier → String
  | .number value => decimal value
  | .title known => quoted known.title

/-- The fields of an asset, each with its name. -/
def assetParts (asset : Asset) : List String :=
  ["id=" ++ identifierLiteral asset.id, "url=" ++ quotedPoints asset.url.codes,
    "name=" ++ optionalLiteral asset.name, "label=" ++ optionalLiteral asset.label,
    "content_type=" ++ quotedPoints asset.contentType.codes, "size=" ++ decimal asset.size]

def assetLiteral (asset : Asset) : String :=
  "ReleaseAsset(" ++ ", ".intercalate (assetParts asset) ++ ")"

/-- The fields of a release, each with its name. -/
def releaseParts (release : Release) : List String :=
  ["id=" ++ identifierLiteral release.id, "url=" ++ quotedPoints release.url.codes,
    "tag_name=" ++ quotedPoints release.tag.codes, "name=" ++ optionalLiteral release.name,
    "body=" ++ optionalLiteral release.body, "draft=" ++ truthLiteral release.draft,
    "prerelease=" ++ truthLiteral release.prerelease,
    "assets=[" ++ ", ".intercalate (release.assets.map assetLiteral) ++ "]"]

def releaseLiteral (release : Release) : String :=
  "Release(" ++ ", ".intercalate (releaseParts release) ++ ")"

mutual

def literal : Value → String
  | null => "None"
  | bool value => truthLiteral value
  | int value => decimal value
  | float value => value.text
  | text value => quoted value
  | brokenText value => quotedPoints value.codes
  | bytes value => quotedBytes value
  | list items => "[" ++ ", ".intercalate (literals items) ++ "]"
  | tuple items =>
    match literals items with
    | [single] => "(" ++ single ++ ",)"
    | shown => "(" ++ ", ".intercalate shown ++ ")"
  | set items =>
    match literals items with
    | [] => "set()"
    | shown => "\x7b" ++ ", ".intercalate shown ++ "\x7d"
  | dict entries => "\x7b" ++ ", ".intercalate (entryLiterals entries) ++ "\x7d"
  | timestamp stamp => stamp.literal
  | weight value => member "WeightScale" value.identifier (decimal value.code)
  | style value => member "StyleKind" value.identifier (decimal value.code)
  | documentWeight value => member "DocumentFontWeight" value.identifier (decimal value.code)
  | documentStyle value => member "DocumentFontStyle" value.identifier (decimal value.code)
  | vocabulary value => member "EnumFamily" value.identifier (quoted value.title)
  | item owner name => s!"EnumItem(family={literal owner}, name={literal name})"
  | descriptor family heft slant =>
    "FontDescriptor(family=" ++ literal family ++ ", weight=WeightScale." ++ heft.identifier ++
      ", style=StyleKind." ++ slant.identifier ++ ")"
  | asset value => assetLiteral value
  | release value => releaseLiteral value

def literals : List Value → List String
  | [] => []
  | value :: rest => literal value :: literals rest

def entryLiterals : List (Value × Value) → List String
  | [] => []
  | (key, value) :: rest => (literal key ++ ": " ++ literal value) :: entryLiterals rest

end

/-- Whether an integer has no more digits than numerals may have. -/
def isShort (value : Int) : Bool :=
  (decimalDigits value.natAbs).length ≤ digitLimit

def identifierIsShort : Identifier → Bool
  | .number value => isShort value
  | .title _ => true

def assetIsShort (asset : Asset) : Bool :=
  identifierIsShort asset.id && isShort asset.size

mutual

/-- Whether no integer in a value has more digits than numerals may have. -/
def isWritable : Value → Bool
  | int value => isShort value
  | list items => areWritable items
  | tuple items => areWritable items
  | set items => areWritable items
  | dict entries => entriesAreWritable entries
  | item owner name => isWritable owner && isWritable name
  | descriptor family _ _ => isWritable family
  | asset value => assetIsShort value
  | release value => identifierIsShort value.id && value.assets.all assetIsShort
  | _ => true

def areWritable : List Value → Bool
  | [] => true
  | value :: rest => isWritable value && areWritable rest

def entriesAreWritable : List (Value × Value) → Bool
  | [] => true
  | (key, value) :: rest => isWritable key && isWritable value && entriesAreWritable rest

end

/-- Why a value cannot stand inside a message. -/
inductive Unwritten
  /-- The vocabulary of an item is not a member of an enumeration. -/
  | untitled
  /-- An integer has too many digits. -/
  | overlong
deriving DecidableEq, Repr

/-- The literal of a value that can be written. -/
def written (value : Value) : Except Unwritten String :=
  if isWritable value then .ok (literal value) else .error .overlong

/-- The text of a value where it stands inside a message. -/
def display : Value → Except Unwritten String
  | text value => .ok value
  | timestamp stamp => .ok stamp.text
  | weight value => .ok value.name
  | style value => .ok value.name
  | documentWeight value => .ok (decimal value.code)
  | documentStyle value => .ok (decimal value.code)
  | vocabulary value => .ok value.title
  | item owner name =>
    match underlying? owner with
    | some (int number) => (display name).map fun shown => decimal number ++ "." ++ shown
    | some (text title) => (display name).map fun shown => title ++ "." ++ shown
    | _ => .error .untitled
  | descriptor family heft slant =>
    (display family).map fun shown => shown ++ ", " ++ heft.name ++ ", " ++ slant.name
  | asset value => (written (asset value)).map fun _ => " ".intercalate (assetParts value)
  | release value => (written (release value)).map fun _ => " ".intercalate (releaseParts value)
  | value => written value

def display? (value : Value) : Option String :=
  (display value).toOption

/-- The code points of the text of a value.  Surrogates stand as they are here, where `display` has
to number them. -/
def points : Value → Except Unwritten (List Nat)
  | brokenText value => .ok value.codes
  | item owner name =>
    match underlying? owner with
    | some (int number) => (points name).map fun shown => codesOf (decimal number ++ ".") ++ shown
    | some (text title) => (points name).map fun shown => codesOf (title ++ ".") ++ shown
    | _ => .error .untitled
  | descriptor family heft slant =>
    (points family).map fun shown => shown ++ codesOf (", " ++ heft.name ++ ", " ++ slant.name)
  | value => (display value).map codesOf

/-- The text of a value as it stands inside a message. -/
def spoken (value : Value) : Except Unwritten HostText :=
  (points value).map HostText.mk

/-- The text of a value as a value, which is broken where surrogates are in it. -/
def shown (value : Value) : Except Unwritten Value :=
  (points value).map ofCodes

end Typeface.Value
