import Typeface.Enumeration
import Typeface.Item

/-!
# Font descriptors

A descriptor names a font family, a weight and a style.  The family is whatever
the caller gave.  Weight and style accept a member of their own enumeration, or
an item of the matching vocabulary with a canonical name.
-/

namespace Typeface

open Value

structure Descriptor where
  family : Value
  weight : Weight
  style : Style
deriving Repr

/-- What stands before the short name in the locator of a built-in font family. -/
def familyOpening : String := "rbxasset://fonts/families/"

/-- What stands after the short name. -/
def familyEnding : String := ".json"

/-- The locator of a built-in font family. -/
def familyLocator (name : String) : String :=
  familyOpening ++ name ++ familyEnding

/-- The locator of an uploaded font family. -/
def assetLocator (asset : Int) : String :=
  "rbxassetid://" ++ Number.decimal asset

namespace Descriptor

def value (descriptor : Descriptor) : Value :=
  .descriptor descriptor.family descriptor.weight descriptor.style

/-- What messages say that a value is: its vocabulary, or its sort when it has none. -/
def actualVocabulary (given : Value) : Value :=
  match vocabularyOf? given with
  | none | some .null => .text (sort given)
  | some owner => owner

/-- The weight that a value given for one stands for. -/
def weightOf : Value → Except Failure Weight
  | .weight weight => .ok weight
  | .item (.vocabulary .weightScale) name => Weight.ofName name
  | given =>
    Failure.raise (.wrongVocabulary (.vocabulary .weightScale) (actualVocabulary given))

/-- The style that a value given for one stands for. -/
def styleOf : Value → Except Failure Style
  | .style style => .ok style
  | .item (.vocabulary .styleKind) name => Style.ofName name
  | given =>
    Failure.raise (.wrongVocabulary (.vocabulary .styleKind) (actualVocabulary given))

def defaultWeight : Value := .weight .regular

def defaultStyle : Value := .style .normal

/-- A descriptor from values; the weight is checked before the style. -/
def make (family weight style : Value) : Except Failure Descriptor := do
  let weight ← weightOf weight
  let style ← styleOf style
  return { family, weight, style }

/-- The locator of the built-in family that a value names in short, as a value, so that surrogates
in the name stay. -/
def namedLocator (name : Value) : Except Unwritten Value :=
  (points name).map fun codes => ofCodes (codesOf familyOpening ++ codes ++ codesOf familyEnding)

/-- A descriptor of a built-in family by its short name. -/
def ofName (name weight style : Value) : Except Failure Descriptor :=
  match namedLocator name with
  | .ok family => make family weight style
  | .error reason => Failure.ofMishap (.ofUnwritten reason)

/-- A descriptor of an uploaded family by its asset id, a non-negative integer. -/
def ofAsset (asset weight style : Value) : Except Failure Descriptor :=
  match asset.integer? with
  | some number =>
    if number < 0 then Failure.raise (.invalidAssetId asset)
    else if isWritable (.int number) then make (.text (assetLocator number)) weight style
    else Failure.ofMishap (.ofUnwritten .overlong)
  | none => Failure.raise (.invalidAssetId asset)

def isBold (descriptor : Descriptor) : Bool :=
  descriptor.weight.isBold

/-- What a descriptor lets its owner read.  The two slots behind weight and style, which no caller
is meant to touch, are not among them. -/
inductive Field
  | family
  | weight
  | style
  | bold
  | weightItem
  | styleItem
deriving DecidableEq, Repr

def Field.ofName? : String → Option Field
  | "family" => some family
  | "weight" => some weight
  | "style" => some style
  | "bold" => some bold
  | "weight_item" => some weightItem
  | "style_item" => some styleItem
  | _ => none

def get (descriptor : Descriptor) : Field → Value
  | .family => descriptor.family
  | .weight => .weight descriptor.weight
  | .style => .style descriptor.style
  | .bold => .bool descriptor.isBold
  | .weightItem => Item.ofWeight descriptor.weight
  | .styleItem => Item.ofStyle descriptor.style

/-- Writes a field: the outcome, and the descriptor as the writer leaves it, refused or not.
Writing boldness forgets the weight, of which bold or regular is all that remains.  The two items can only
be read. -/
def write (descriptor : Descriptor) (field : Field) (given : Value) :
    Except Failure Unit × Descriptor :=
  match field with
  | .family => (.ok (), { descriptor with family := given })
  | .weight =>
    match weightOf given with
    | .ok weight => (.ok (), { descriptor with weight })
    | .error failure => (.error failure, descriptor)
  | .style =>
    match styleOf given with
    | .ok style => (.ok (), { descriptor with style })
    | .error failure => (.error failure, descriptor)
  | .bold =>
    match given with
    | .bool bold => (.ok (), { descriptor with weight := if bold then .bold else .regular })
    | given => (Failure.raise (.invalidBold given), descriptor)
  | .weightItem | .styleItem => (Failure.ofMishap .noSuchAttribute, descriptor)

/-- A new descriptor made of the parts of another. -/
def copy (descriptor : Descriptor) : Except Failure Descriptor :=
  make descriptor.family (.weight descriptor.weight) (.style descriptor.style)

/-- The descriptor as a mapping with canonical names. -/
def toMapping (descriptor : Descriptor) : Value :=
  .dict [(.text "family", descriptor.family), (.text "weight", .text descriptor.weight.name),
    (.text "style", .text descriptor.style.name)]

/-- Equality of what descriptors name.  It is that of their families where these are values
that equal themselves. -/
def same (left right : Descriptor) : Bool :=
  equal left.value right.value

end Descriptor

end Typeface
