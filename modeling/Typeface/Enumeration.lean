import Typeface.Failure
import Typeface.Value.Equality

/-!
# Enumerations

Members of the five enumerations, looked up by a value that a host hands over:
by a code, by a canonical name, or by anything equal to what the member stands for.
-/

namespace Typeface

open Value

inductive Enumeration
  | weight
  | style
  | documentWeight
  | documentStyle
  | vocabulary
deriving DecidableEq, Repr

namespace Enumeration

/-- The members in order. -/
def members : Enumeration → List Value
  | weight => Weight.all.map .weight
  | style => Style.all.map .style
  | documentWeight => Document.Weight.all.map .documentWeight
  | documentStyle => Document.Style.all.map .documentStyle
  | vocabulary => Vocabulary.all.map .vocabulary

/-- Whether a member is meant by a value: the member itself, or what it stands for. -/
def meant (value member : Value) : Bool :=
  equal member value || (underlying? member).any fun code => equal code value

def find (enumeration : Enumeration) (value : Value) : Except Failure Value :=
  match enumeration.members.find? (meant value) with
  | some member => .ok member
  | none => Failure.ofMishap .wrongValue

end Enumeration

namespace Weight

/-- The weight of a code.  Truth values, texts and fractions are no codes. -/
def ofCode (code : Value) : Except Failure Weight :=
  match code.integer?.bind ofCode? with
  | some known => .ok known
  | none => Failure.raise (.fontNotFound code (.text Vocabulary.weightScale.title))

/-- The weight of a canonical name. -/
def ofName (name : Value) : Except Failure Weight :=
  let known? := match name with
    | .text name => ofName? name
    | _ => none
  match known? with
  | some known => .ok known
  | none => Failure.raise (.fontNotFound name (.text Vocabulary.weightScale.title))

end Weight

namespace Style

/-- The style of a code.  Truth values, texts and fractions are no codes. -/
def ofCode (code : Value) : Except Failure Style :=
  match code.integer?.bind ofCode? with
  | some known => .ok known
  | none => Failure.raise (.fontNotFound code (.text Vocabulary.styleKind.title))

/-- The style of a canonical name. -/
def ofName (name : Value) : Except Failure Style :=
  let known? := match name with
    | .text name => ofName? name
    | _ => none
  match known? with
  | some known => .ok known
  | none => Failure.raise (.fontNotFound name (.text Vocabulary.styleKind.title))

end Style

end Typeface
