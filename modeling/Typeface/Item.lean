import Typeface.Failure

/-!
# Items

An item is a name tagged with the vocabulary that it comes from, the form in
which host layers hand over weights, styles and legacy fonts.
-/

namespace Typeface.Item

def ofWeight (weight : Weight) : Value :=
  .item (.vocabulary .weightScale) (.text weight.name)

def ofStyle (style : Style) : Value :=
  .item (.vocabulary .styleKind) (.text style.name)

/-- The item of a weight or a style; nothing else has one. -/
def ofMember : Value → Except Failure Value
  | .weight weight => .ok (ofWeight weight)
  | .style style => .ok (ofStyle style)
  | _ => Failure.ofMishap .noSuchAttribute

def legacyFont (name : Value) : Value :=
  .item (.vocabulary .legacyFont) name

/-- Writes an attribute of an item.  Items never change, whatever the attribute. -/
def write (_field : String) (_given : Value) : Except Failure Value :=
  Failure.ofMishap .frozenField

end Typeface.Item
