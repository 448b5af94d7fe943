import Typeface.Descriptor
import Typeface.Proofs.Enumeration
import Typeface.Proofs.Failure
import Typeface.Proofs.Value

/-!
# Writing and copying descriptors

A weight or a style is taken from a member of its enumeration or from the item
that such a member stands for, and from nothing else.  A refused write leaves
the descriptor as it was, and a successful one changes the written field alone.
-/

namespace Typeface

theorem Weight.ofName_eq_ok_iff (name : Value) (weight : Weight) :
    Weight.ofName name = .ok weight ↔ name = .text weight.name := by
  cases name with
  | text name =>
    rw [Value.text.injEq, ← Weight.ofName?_eq_some_iff]
    cases hknown : Weight.ofName? name <;> simp [Weight.ofName, hknown, Failure.raise_ne_ok]
  | _ => simp [Weight.ofName, Failure.raise_ne_ok]

theorem Weight.ofName_unknown {name : Value} (hname : ∀ weight : Weight, name ≠ .text weight.name) :
    Weight.ofName name =
      Failure.raise (.fontNotFound name (.text Vocabulary.weightScale.title)) := by
  cases name with
  | text content =>
    cases hknown : Weight.ofName? content with
    | none => simp only [Weight.ofName, hknown]
    | some weight =>
      rw [Weight.ofName?_eq_some_iff] at hknown
      exact absurd (congrArg Value.text hknown) (hname weight)
  | _ => rfl

theorem Style.ofName_eq_ok_iff (name : Value) (style : Style) :
    Style.ofName name = .ok style ↔ name = .text style.name := by
  cases name with
  | text name =>
    rw [Value.text.injEq, ← Style.ofName?_eq_some_iff]
    cases hknown : Style.ofName? name <;> simp [Style.ofName, hknown, Failure.raise_ne_ok]
  | _ => simp [Style.ofName, Failure.raise_ne_ok]

theorem Style.ofName_unknown {name : Value} (hname : ∀ style : Style, name ≠ .text style.name) :
    Style.ofName name =
      Failure.raise (.fontNotFound name (.text Vocabulary.styleKind.title)) := by
  cases name with
  | text content =>
    cases hknown : Style.ofName? content with
    | none => simp only [Style.ofName, hknown]
    | some style =>
      rw [Style.ofName?_eq_some_iff] at hknown
      exact absurd (congrArg Value.text hknown) (hname style)
  | _ => rfl

namespace Descriptor

theorem weightOf_eq_ok_iff (given : Value) (weight : Weight) :
    weightOf given = .ok weight ↔ given = .weight weight ∨ given = Item.ofWeight weight := by
  unfold weightOf
  split
  case h_1 known => simp [Item.ofWeight]
  case h_2 name => simp [Weight.ofName_eq_ok_iff, Item.ofWeight]
  case h_3 given hweight hitem =>
    constructor
    · intro hok
      exact absurd hok (Failure.raise_ne_ok _ _)
    · rintro (rfl | rfl)
      · exact absurd rfl (hweight weight)
      · exact absurd rfl (hitem (.text weight.name))

theorem styleOf_eq_ok_iff (given : Value) (style : Style) :
    styleOf given = .ok style ↔ given = .style style ∨ given = Item.ofStyle style := by
  unfold styleOf
  split
  case h_1 known => simp [Item.ofStyle]
  case h_2 name => simp [Style.ofName_eq_ok_iff, Item.ofStyle]
  case h_3 given hstyle hitem =>
    constructor
    · intro hok
      exact absurd hok (Failure.raise_ne_ok _ _)
    · rintro (rfl | rfl)
      · exact absurd rfl (hstyle style)
      · exact absurd rfl (hitem (.text style.name))

variable {descriptor : Descriptor} {field : Field} {given : Value}

theorem write_refused {failure : Failure}
    (hfailure : (descriptor.write field given).1 = .error failure) :
    (descriptor.write field given).2 = descriptor := by
  revert hfailure
  cases field with
  | family => simp [write]
  | weight => cases hweight : weightOf given <;> simp [write, hweight]
  | style => cases hstyle : styleOf given <;> simp [write, hstyle]
  | bold => cases given <;> simp [write]
  | weightItem => simp [write]
  | styleItem => simp [write]

/-- How a successful write of a field changes a descriptor.  The two items are never written. -/
inductive Written (old : Descriptor) : Field → Value → Descriptor → Prop
  | family (given : Value) : Written old .family given { old with family := given }
  | weight {given : Value} {weight : Weight}
      (hgiven : given = .weight weight ∨ given = Item.ofWeight weight) :
      Written old .weight given { old with weight }
  | style {given : Value} {style : Style}
      (hgiven : given = .style style ∨ given = Item.ofStyle style) :
      Written old .style given { old with style }
  /-- Boldness reads back as it was written. -/
  | bold {bold : Bool} {weight : Weight}
      (hbold : ({ old with weight } : Descriptor).get .bold = .bool bold) :
      Written old .bold (.bool bold) { old with weight }

theorem written_of_ok (hwritten : (descriptor.write field given).1 = .ok ()) :
    descriptor.Written field given (descriptor.write field given).2 := by
  cases field with
  | family => exact .family given
  | weight =>
    cases hweight : weightOf given with
    | error failure => simp [write, hweight] at hwritten
    | ok weight =>
      simp only [write, hweight]
      exact .weight ((weightOf_eq_ok_iff given weight).mp hweight)
  | style =>
    cases hstyle : styleOf given with
    | error failure => simp [write, hstyle] at hwritten
    | ok style =>
      simp only [write, hstyle]
      exact .style ((styleOf_eq_ok_iff given style).mp hstyle)
  | bold =>
    cases given with
    | bool bold =>
      refine .bold ?_
      cases bold <;> rfl
    | _ => simp [write, Failure.raise_ne_ok] at hwritten
  | weightItem => simp [write, Failure.ofMishap] at hwritten
  | styleItem => simp [write, Failure.ofMishap] at hwritten

theorem copy_eq (descriptor : Descriptor) : descriptor.copy = .ok descriptor := rfl

theorem display_value (descriptor : Descriptor) :
    descriptor.value.display = descriptor.family.display.map fun shown =>
      shown ++ ", " ++ descriptor.weight.name ++ ", " ++ descriptor.style.name := rfl

/-- Not every value equals itself, but a text does. -/
theorem equal_self_of_text (hfamily : descriptor.family.sort = "str") :
    Value.equal descriptor.value descriptor.value = true := by
  have hself : Value.equal descriptor.family descriptor.family = true := by
    rcases Value.cases_of_sort hfamily with ⟨content, hvalue⟩ | ⟨codes, hvalue⟩ <;>
      simp [hvalue, Value.equal]
  simp [value, Value.equal, hself]

end Descriptor

end Typeface
