import Typeface.Checked
import Typeface.Proofs.Value

/-!
# Records that pass their checks

A record is accepted exactly if each of its fields is, and an accepted field is
either the default or what the value given for it spells.  Fields with a bound
spell values within it.
-/

namespace Typeface

/-- Steps in a row succeed exactly if each does with what the one before it gave. -/
theorem bind_eq_ok_iff {ε α β : Type} {first : Except ε α} {next : α → Except ε β} {result : β} :
    first >>= next = .ok result ↔ ∃ found, first = .ok found ∧ next found = .ok result := by
  cases first <;> simp [bind, Except.bind]

theorem bind_eq_error_iff {ε α β : Type} {first : Except ε α} {next : α → Except ε β} {error : ε} :
    first >>= next = .error error ↔
      first = .error error ∨ ∃ content, first = .ok content ∧ next content = .error error := by
  cases first <;> simp [bind, Except.bind]

theorem map_eq_ok_iff {ε α β : Type} {first : Except ε α} {next : α → β} {result : β} :
    first.map next = .ok result ↔ ∃ found, first = .ok found ∧ next found = result := by
  cases first <;> simp [Except.map]

namespace Checked

variable {α β : Type} {fields : Fields} {name : String} {coerce : Value → Except Defect α}

theorem also_eq_ok_iff {build : Checked (α → β)} {next : Checked α} {result : β} :
    also build next = .ok result ↔
      ∃ make field, build = .ok make ∧ next = .ok field ∧ make field = result := by
  cases build <;> cases next <;> simp [also]

theorem field_eq_ok_iff {value : Value} {result : α} :
    field name coerce value = .ok result ↔ coerce value = .ok result := by
  cases hvalue : coerce value <;> simp [field, hvalue]

theorem defaulted_eq_ok_iff {standIn result : α} :
    defaulted fields name coerce standIn = .ok result ↔
      (∃ value, fields.lookup name = some value ∧ coerce value = .ok result) ∨
        fields.lookup name = none ∧ standIn = result := by
  cases hvalue : fields.lookup name <;> simp [defaulted, hvalue, field_eq_ok_iff]

theorem lookup_alone (name : String) (given : Option Value) :
    (given.toList.map fun value => (name, value)).lookup name = given := by
  cases given <;> simp

theorem defaulted_given_eq_ok_iff {given : Option Value} {standIn result : α} :
    defaulted (given.toList.map fun value => (name, value)) name coerce standIn = .ok result ↔
      (∃ value, given = some value ∧ coerce value = .ok result) ∨
        given = none ∧ standIn = result := by
  rw [defaulted_eq_ok_iff, lookup_alone]

/-- A field with a default reads the same by itself as among others. -/
theorem defaulted_alone (fields : Fields) (name : String) (coerce : Value → Except Defect α)
    (standIn : α) :
    defaulted ((fields.lookup name).toList.map fun value => (name, value)) name coerce standIn =
      defaulted fields name coerce standIn := by
  rw [defaulted, defaulted, lookup_alone]

theorem required_eq_ok_iff {result : α} :
    required fields name coerce = .ok result ↔
      ∃ value, fields.lookup name = some value ∧ coerce value = .ok result := by
  cases hvalue : fields.lookup name <;> simp [required, hvalue, field_eq_ok_iff]

/-- A property of the default and of all that can be spelled holds of every accepted field. -/
theorem defaulted_satisfies (property : α → Prop) {standIn result : α}
    (haccepted : defaulted fields name coerce standIn = .ok result) (hstandIn : property standIn)
    (hcoerce : ∀ value spelled, coerce value = .ok spelled → property spelled) :
    property result := by
  rcases defaulted_eq_ok_iff.mp haccepted with ⟨value, _, hvalue⟩ | ⟨_, rfl⟩
  · exact hcoerce value result hvalue
  · exact hstandIn

theorem orFail_eq_ok_iff {check : Checked α} {result : α} :
    check.orFail = .ok result ↔ check = .ok result := by
  cases check <;> simp [orFail]

theorem items_eq_ok_iff {check : Value → Checked α} {values : List Value}
    {results : List α} (position : Nat) :
    items check position values = .ok results ↔ values.map check = results.map .ok := by
  induction values generalizing position results with
  | nil => cases results <;> simp [items]
  | cons value rest ih =>
    have hrest : ∀ others, items check (position + 1) rest = .ok others ↔
        rest.map check = others.map .ok := fun others => ih (position + 1)
    cases hvalue : check value with
    | error complaints => cases results <;> simp [items, also_eq_ok_iff, hvalue]
    | ok first =>
      cases results with
      | nil => simp [items, also_eq_ok_iff, hvalue]
      | cons result others =>
        rw [List.map_cons, List.map_cons, hvalue, List.cons.injEq, Except.ok.injEq, ← hrest]
        cases hitems : items check (position + 1) rest <;> simp [items, also, hvalue, hitems]

/-- A list is checked item by item, so that an item may stand for another that checks alike. -/
theorem items_congr {check : Value → Checked α} {front back : List Value} {left right : Value}
    (halike : check left = check right) (position : Nat) :
    items check position (front ++ left :: back) =
      items check position (front ++ right :: back) := by
  induction front generalizing position with
  | nil => rw [List.nil_append, List.nil_append, items, items, halike]
  | cons first rest ih => rw [List.cons_append, List.cons_append, items, items, ih]

/-- What is so of each item exactly if it is of its result is so of all items exactly if it is of
all results. -/
theorem forall_mem_items_iff {check : Value → Checked α} {values : List Value} {results : List α}
    {position : Nat} {given : Value → Prop} {made : α → Prop}
    (hitems : items check position values = .ok results)
    (hiff : ∀ value result, check value = .ok result → (made result ↔ given value)) :
    (∀ result ∈ results, made result) ↔ ∀ value ∈ values, given value := by
  have hpairs : values.map check = results.map .ok := (items_eq_ok_iff position).mp hitems
  constructor
  · intro hmade value hvalue
    have hchecked : check value ∈ results.map .ok := hpairs ▸ List.mem_map_of_mem hvalue
    obtain ⟨result, hresult, hcheck⟩ := List.mem_map.mp hchecked
    exact (hiff value result hcheck.symm).mp (hmade result hresult)
  · intro hgiven result hresult
    have hchecked : .ok result ∈ values.map check := hpairs ▸ List.mem_map_of_mem hresult
    obtain ⟨value, hvalue, hcheck⟩ := List.mem_map.mp hchecked
    exact (hiff value result hcheck).mpr (hgiven value hvalue)

end Checked

namespace Coercion

open Typeface.Number

variable {value : Value}

theorem nonemptyText_ne {content : String} (hspelled : nonemptyText value = .ok content) :
    content ≠ "" := by
  obtain ⟨spelled, _, hkept⟩ := bind_eq_ok_iff.mp hspelled
  split at hkept
  · cases hkept
  · split at hkept
    · cases hkept
    · next hgiven =>
      cases hkept
      simpa using hgiven

theorem natural_nonneg {whole : Int} (hspelled : natural value = .ok whole) : 0 ≤ whole := by
  obtain ⟨spelled, _, hkept⟩ := bind_eq_ok_iff.mp hspelled
  split at hkept
  · cases hkept
  · next hnatural =>
    cases hkept
    omega

theorem natural_int_iff {whole : Int} : natural (.int whole) = .ok whole ↔ 0 ≤ whole := by
  constructor
  · exact natural_nonneg
  · intro hnatural
    have hbound : ¬ whole < 0 := by omega
    simp [natural, comparable, integer, hbound, bind, Except.bind]

/-- A text is taken as it is, whatever its code points. -/
@[simp]
theorem text_value (content : HostText) : text content.value = .ok content := by
  rcases content.isText_value.cases with ⟨plain, hplain⟩ | ⟨broken, hbroken⟩
  · have hcontent : (plain : HostText) = content :=
      HostText.value_injective (by rw [HostText.value_ofText, hplain])
    rw [hplain, ← hcontent]
    rfl
  · have hread := HostText.hostText?_value content
    rw [hbroken] at hread ⊢
    exact congrArg Except.ok (Option.some.inj hread)

/-- A text that may be left out is taken back as it is shown. -/
theorem optional_text (content : Option HostText) :
    optional text (.ofOption HostText.value content) = .ok content := by
  cases content with
  | none => rfl
  | some content =>
    rw [Value.ofOption, optional]
    · simp [Except.map]
    · exact content.value_ne_null

theorem positiveInteger_pos {whole : Int} (hspelled : positiveInteger value = .ok whole) :
    0 < whole := by
  obtain ⟨spelled, _, hkept⟩ := bind_eq_ok_iff.mp hspelled
  split at hkept
  · cases hkept
  · next hpositive =>
    cases hkept
    omega

theorem positiveFloat_isPositive {number : Binary64} (hspelled : positiveFloat value = .ok number) :
    number.isPositive = true := by
  obtain ⟨spelled, _, hkept⟩ := bind_eq_ok_iff.mp hspelled
  split at hkept
  · next hpositive =>
    cases hkept
    exact hpositive
  · cases hkept

end Coercion

end Typeface
