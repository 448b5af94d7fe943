import Typeface.Checked
import Typeface.Text.Quoted

/-!
# Fonts of documents

A document refers to a font by family, weight code and style code, and may
remember a face that it has in a cache.  `Font` is the checked form.  `RawFont`
is what a document that has drifted may hold: any value in any field.
-/

namespace Typeface.Document

structure Font where
  family : HostText
  weight : Weight
  style : Style
  cachedFace : Option HostText
deriving DecidableEq, Repr

structure RawFont where
  family : Value
  weight : Value
  style : Value
  cachedFace : Value
deriving Repr

namespace RawFont

/-- Equality field by field. -/
def same (left right : RawFont) : Bool :=
  Value.equal left.family right.family && Value.equal left.weight right.weight &&
    Value.equal left.style right.style && Value.equal left.cachedFace right.cachedFace

/-- Writes a field of a font.  Fonts of documents never change, whatever the field. -/
def write (_font : RawFont) (field : String) (_given : Value) : Except Failure RawFont :=
  Failure.ofMishap (.invalid [{ place := [.field field], defect := .frozen }])

/-- The font with its fields by name. -/
def literal (font : RawFont) : String :=
  s!"DocumentFont(family={font.family.literal}, weight={font.weight.literal}, " ++
    s!"style={font.style.literal}, cached_face_id={font.cachedFace.literal})"

end RawFont

/-- The weight that a value spells by its code. -/
def weightOf (value : Value) : Except Defect Weight := do
  let code ← Coercion.code (Weight.all.map Weight.code) value
  return (Weight.ofCode? code).getD .regular

/-- The style that a value spells by its code. -/
def styleOf (value : Value) : Except Defect Style := do
  let code ← Coercion.code (Style.all.map Style.code) value
  return (Style.ofCode? code).getD .normal

namespace Font

def raw (font : Font) : RawFont :=
  { family := font.family.value
    weight := .documentWeight font.weight
    style := .documentStyle font.style
    cachedFace := Value.ofOption HostText.value font.cachedFace }

/-- Checks the fields of a font. -/
def ofFields (fields : Fields) : Checked Font :=
  Checked.also (Checked.also (Checked.also (Checked.also (.ok Font.mk)
    (Checked.required fields "family" Coercion.text))
    (Checked.defaulted fields "weight" weightOf .regular))
    (Checked.defaulted fields "style" styleOf .normal))
    (Checked.defaulted fields "cached_face_id" (Coercion.optional Coercion.text) none)

/-- Controls without a letter of their own are numbered; all else but quotation marks and
backslashes stands as it is. -/
def jsonLetter (letter : Char) : List Char :=
  if letter = Text.quotationMark ∨ letter = Text.backslash then [Text.backslash, letter]
  else if letter.toNat = 8 then [Text.backslash, 'b']
  else if letter = '\t' then [Text.backslash, 't']
  else if letter = '\n' then [Text.backslash, 'n']
  else if letter.toNat = 12 then [Text.backslash, 'f']
  else if letter = '\r' then [Text.backslash, 'r']
  else if letter.toNat < 0x20 then Text.backslash :: 'u' :: Text.hex 4 letter.toNat
  else [letter]

def jsonText (text : String) : String :=
  String.ofList (Text.quotationMark :: text.toList.flatMap jsonLetter ++ [Text.quotationMark])

/-- The JSON text of a host text, which must be made of characters. -/
def jsonOf (text : HostText) : Except Failure String :=
  match text.plain? with
  | some content => .ok (jsonText content)
  | none => Failure.ofMishap .unserializable

/-- The JSON text of a font: four members in a fixed order and no blanks. -/
def json (font : Font) : Except Failure String := do
  let family ← jsonOf font.family
  let face ← match font.cachedFace with
    | some face => jsonOf face
    | none => pure "null"
  return "\x7b\"family\":" ++ family ++
    ",\"weight\":" ++ Number.decimal font.weight.code ++
    ",\"style\":" ++ Number.decimal font.style.code ++
    ",\"cached_face_id\":" ++ face ++ "\x7d"

end Font

end Typeface.Document
