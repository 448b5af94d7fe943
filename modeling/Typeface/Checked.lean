import Typeface.Coercion
import Typeface.Failure

/-!
# Checked records

The fields of a record are checked one by one and the complaints of all of them
are kept, in the order of the fields.
-/

namespace Typeface

abbrev Checked (α : Type) := Except (List Complaint) α

/-- The entries of a mapping that have a text as key; a record has no other fields. -/
abbrev Fields := List (String × Value)

namespace Checked

/-- Applies a record under construction to its next field. -/
def also {α β : Type} (build : Checked (α → β)) (next : Checked α) : Checked β :=
  match build, next with
  | .ok build, .ok field => .ok (build field)
  | .ok _, .error complaints => .error complaints
  | .error complaints, .ok _ => .error complaints
  | .error earlier, .error later => .error (earlier ++ later)

/-- A field of a value that is at hand. -/
def field {α : Type} (name : String) (coerce : Value → Except Defect α) (value : Value) :
    Checked α :=
  match coerce value with
  | .ok result => .ok result
  | .error defect => .error [{ place := [.field name], defect }]

/-- A field that must be given. -/
def required {α : Type} (fields : Fields) (name : String) (coerce : Value → Except Defect α) :
    Checked α :=
  match fields.lookup name with
  | some value => field name coerce value
  | none => .error [{ place := [.field name], defect := .missing }]

/-- A field that has a default. -/
def defaulted {α : Type} (fields : Fields) (name : String) (coerce : Value → Except Defect α)
    (standIn : α) : Checked α :=
  match fields.lookup name with
  | some value => field name coerce value
  | none => .ok standIn

/-- Checks the items of a list, each at its index. -/
def items {α : Type} (check : Value → Checked α) : Nat → List Value → Checked (List α)
  | _, [] => .ok []
  | position, value :: rest =>
    let first : Checked α := match check value with
      | .ok result => .ok result
      | .error complaints => .error (Complaint.within (.index position) complaints)
    also (also (.ok List.cons) first) (items check (position + 1) rest)

/-- A check as an operation that fails with the complaints. -/
def orFail {α : Type} : Checked α → Except Failure α
  | .ok value => .ok value
  | .error complaints => .error (.mishap (.invalid complaints))

end Checked

/-- The entries of a mapping that are fields. -/
def Value.fields (entries : List (Value × Value)) : Fields :=
  entries.filterMap fun entry =>
    match entry.1 with
    | .text name => some (name, entry.2)
    | _ => none

end Typeface
