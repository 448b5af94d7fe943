import Typeface.Style
import Typeface.Weight

/-!
# Weights and styles by name and code

No two weights share a name, a code or an identifier, and no two styles do.  So a
look-up finds a member exactly if it is made by the name or the code of this
member.
-/

namespace Typeface

section Key

variable {Member Key : Type} [BEq Key] [LawfulBEq Key] {all : List Member} {key : Member → Key}

/-- Where each member is found by its own key, it is found by no other. -/
theorem find?_eq_some_iff_of_self
    (hself : ∀ member, (all.find? fun other => key other == key member) = some member)
    (wanted : Key) (member : Member) :
    (all.find? fun other => key other == wanted) = some member ↔ wanted = key member := by
  constructor
  · intro hfound
    have hsame := List.find?_some hfound
    exact (beq_iff_eq.mp hsame).symm
  · rintro rfl
    exact hself member

theorem eq_of_key_eq
    (hself : ∀ member, (all.find? fun other => key other == key member) = some member)
    {left right : Member} (hkey : key left = key right) : left = right := by
  have hfound : (all.find? fun other => key other == key left) = some right :=
    (find?_eq_some_iff_of_self hself _ right).mpr hkey
  rw [hself left, Option.some.injEq] at hfound
  exact hfound

end Key

namespace Weight

theorem ofName?_eq_some_iff (name : String) (weight : Weight) :
    ofName? name = some weight ↔ name = weight.name :=
  find?_eq_some_iff_of_self ofName?_name name weight

theorem ofCode?_eq_some_iff (code : Int) (weight : Weight) :
    ofCode? code = some weight ↔ code = weight.code :=
  find?_eq_some_iff_of_self ofCode?_code code weight

theorem eq_of_code_eq {left right : Weight} (hcode : (left.code : Int) = right.code) :
    left = right :=
  eq_of_key_eq ofCode?_code hcode

theorem eq_of_name_eq {left right : Weight} (hname : left.name = right.name) : left = right :=
  eq_of_key_eq ofName?_name hname

theorem ofIdentifier?_identifier (weight : Weight) :
    ofIdentifier? weight.identifier = some weight := by
  cases weight <;> rfl

theorem eq_of_identifier_eq {left right : Weight} (hidentifier : left.identifier = right.identifier) :
    left = right :=
  eq_of_key_eq ofIdentifier?_identifier hidentifier

end Weight

namespace Style

theorem ofName?_eq_some_iff (name : String) (style : Style) :
    ofName? name = some style ↔ name = style.name :=
  find?_eq_some_iff_of_self ofName?_name name style

theorem ofCode?_eq_some_iff (code : Int) (style : Style) :
    ofCode? code = some style ↔ code = style.code :=
  find?_eq_some_iff_of_self ofCode?_code code style

theorem eq_of_code_eq {left right : Style} (hcode : (left.code : Int) = right.code) :
    left = right :=
  eq_of_key_eq ofCode?_code hcode

theorem eq_of_name_eq {left right : Style} (hname : left.name = right.name) : left = right :=
  eq_of_key_eq ofName?_name hname

theorem ofIdentifier?_identifier (style : Style) : ofIdentifier? style.identifier = some style := by
  cases style <;> rfl

theorem eq_of_identifier_eq {left right : Style} (hidentifier : left.identifier = right.identifier) :
    left = right :=
  eq_of_key_eq ofIdentifier?_identifier hidentifier

end Style

end Typeface
