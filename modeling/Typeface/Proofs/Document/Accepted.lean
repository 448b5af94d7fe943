import Typeface.Document.Font
import Typeface.Proofs.Checked
import Typeface.Proofs.Enumeration

/-!
# Accepted fonts

A font is accepted exactly if each of its fields is spelled by the value given
for it, or has a default where none is given.  A weight or a style is spelled by
whatever comes to the integer that is its code, a text by itself, by bytes that
encode it, and by the member of an enumeration that stands for it.
-/

namespace Typeface

namespace Coercion

/-- A value that passes for a text without being one. -/
inductive Recast : Value → HostText → Prop
  | bytes {content : Text.Bytes} {shown : String} (hshown : Text.utf8? content = some shown) :
      Recast (.bytes content) shown
  | member {value plain : Value} {shown : String} (hplain : Value.underlying? value = some plain)
      (hshown : plain.display = .ok shown) : Recast value shown

/-- Texts are never recast, not even those with a surrogate. -/
theorem Recast.sort_ne {value : Value} {shown : HostText} (hrecast : Recast value shown) :
    value.sort ≠ "str" := by
  cases hrecast with
  | bytes _ => simp [Value.sort]
  | member hplain _ => cases value <;> simp_all [Value.underlying?, Value.sort]

theorem memberText?_eq_some_iff {value : Value} {shown : String} :
    memberText? value = some shown ↔
      ∃ plain, Value.underlying? value = some plain ∧ plain.display = .ok shown := by
  simp only [memberText?, Option.bind_eq_some_iff, Value.display?]
  refine exists_congr fun plain => and_congr_right fun _ => ?_
  cases plain.display <;> simp [Except.toOption]

theorem text_eq_ok_iff {value : Value} {shown : HostText} :
    text value = .ok shown ↔ value = shown.value ∨ Recast value shown := by
  constructor
  · intro hspelled
    unfold text at hspelled
    split at hspelled
    case h_1 content =>
      cases hspelled
      exact .inl (HostText.value_ofText content).symm
    case h_2 broken =>
      cases hspelled
      exact .inl (Value.ofCodes_codes broken).symm
    case h_3 content =>
      split at hspelled
      case h_1 decoded hdecoded =>
        cases hspelled
        exact .inr (.bytes hdecoded)
      case h_2 => cases hspelled
    case h_4 =>
      split at hspelled
      case h_1 found hfound =>
        cases hspelled
        obtain ⟨plain, hplain, hshown⟩ := memberText?_eq_some_iff.mp hfound
        exact .inr (.member hplain hshown)
      case h_2 => cases hspelled
  · rintro (rfl | hrecast)
    · exact text_value shown
    · cases hrecast with
      | bytes hshown => simp only [text, hshown]
      | member hplain hshown =>
        have hfound := memberText?_eq_some_iff.mpr ⟨_, hplain, hshown⟩
        cases value <;> simp_all [text, Value.underlying?]

theorem code_eq_ok_iff {codes : List Nat} {value : Value} {known : Nat}
    (hcodes : ∀ code ∈ codes, isMachineInteger code = true) :
    code codes value = .ok known ↔ integer value = .ok (known : Int) ∧ known ∈ codes := by
  cases hvalue : integer value with
  | error defect => simp [code, hvalue]
  | ok whole =>
    simp only [code, hvalue, Except.ok.injEq]
    cases hfound : codes.find? fun (code : Nat) => (code : Int) == whole with
    | some found =>
      have hsame : (found : Int) = whole := by simpa using List.find?_some hfound
      have hmember : found ∈ codes := List.mem_of_find?_eq_some hfound
      subst hsame
      simp only [hcodes found hmember, Bool.true_or, if_true, Except.ok.injEq, Int.natCast_inj]
      exact ⟨fun hknown => ⟨hknown, hknown ▸ hmember⟩, And.left⟩
    | none =>
      have hmissing : ¬ (whole = (known : Int) ∧ known ∈ codes) := by
        rintro ⟨rfl, hmember⟩
        simpa using List.find?_eq_none.mp hfound known hmember
      refine iff_of_false ?_ hmissing
      split <;> nofun

end Coercion

namespace Document

section Member

variable {Member : Type} {all : List Member} {codeOf : Member → Nat}
variable {ofCode? : Int → Option Member} {standIn member : Member} {value : Value}

/-- Every code of an enumeration is found, so that no member stands in for it. -/
theorem member_eq_ok_iff (hall : ∀ member, member ∈ all)
    (hcodes : ∀ member, Coercion.isMachineInteger (codeOf member) = true)
    (hself : ∀ member, ofCode? (codeOf member) = some member) :
    (do let code ← Coercion.code (all.map codeOf) value; return (ofCode? code).getD standIn) =
      .ok member ↔ Coercion.integer value = .ok (codeOf member : Int) := by
  have hmachine : ∀ code ∈ all.map codeOf, Coercion.isMachineInteger code = true := by
    intro code hcode
    obtain ⟨known, _, rfl⟩ := List.mem_map.mp hcode
    exact hcodes known
  simp only [bind_eq_ok_iff, Coercion.code_eq_ok_iff hmachine, pure, Except.pure,
    Except.ok.injEq]
  constructor
  · rintro ⟨code, ⟨hspelled, hcode⟩, hfound⟩
    obtain ⟨known, _, rfl⟩ := List.mem_map.mp hcode
    rw [hself, Option.getD_some] at hfound
    rw [hspelled, hfound]
  · intro hspelled
    refine ⟨codeOf member, ⟨hspelled, List.mem_map_of_mem (hall member)⟩, ?_⟩
    rw [hself, Option.getD_some]

end Member

theorem Weight.mem_all (weight : Weight) : weight ∈ all := by
  cases weight <;> decide

theorem Style.mem_all (style : Style) : style ∈ all := by
  cases style <;> decide

theorem weightOf_eq_ok_iff {value : Value} {weight : Weight} :
    weightOf value = .ok weight ↔ Coercion.integer value = .ok (weight.code : Int) :=
  member_eq_ok_iff Weight.mem_all (fun weight => by cases weight <;> rfl) Weight.ofCode?_code

theorem styleOf_eq_ok_iff {value : Value} {style : Style} :
    styleOf value = .ok style ↔ Coercion.integer value = .ok (style.code : Int) :=
  member_eq_ok_iff Style.mem_all (fun style => by cases style <;> rfl) Style.ofCode?_code

namespace Font

variable {fields : Fields}

/-- Each field is spelled by the value given for it; all but the family may be absent. -/
structure Spelled (fields : Fields) (font : Font) : Prop where
  family : ∃ value, fields.lookup "family" = some value ∧
    Coercion.text value = .ok font.family
  weight : (∃ value, fields.lookup "weight" = some value ∧
      Coercion.integer value = .ok (font.weight.code : Int)) ∨
    fields.lookup "weight" = none ∧ .regular = font.weight
  style : (∃ value, fields.lookup "style" = some value ∧
      Coercion.integer value = .ok (font.style.code : Int)) ∨
    fields.lookup "style" = none ∧ .normal = font.style
  face : (∃ value, fields.lookup "cached_face_id" = some value ∧
      Coercion.optional Coercion.text value = .ok font.cachedFace) ∨
    fields.lookup "cached_face_id" = none ∧ none = font.cachedFace

theorem ofFields_eq_ok_iff {font : Font} : ofFields fields = .ok font ↔ Spelled fields font := by
  simp only [ofFields, Checked.also_eq_ok_iff, Except.ok.injEq, Checked.required_eq_ok_iff,
    Checked.defaulted_eq_ok_iff, weightOf_eq_ok_iff, styleOf_eq_ok_iff]
  constructor
  · rintro ⟨_, _, ⟨_, _, ⟨_, _, ⟨_, _, rfl, hfamily, rfl⟩, hweight, rfl⟩, hstyle, rfl⟩, hface, rfl⟩
    exact ⟨hfamily, hweight, hstyle, hface⟩
  · rintro ⟨hfamily, hweight, hstyle, hface⟩
    exact ⟨_, _, ⟨_, _, ⟨_, _, ⟨_, _, rfl, hfamily, rfl⟩, hweight, rfl⟩, hstyle, rfl⟩, hface, rfl⟩

end Font

end Document

end Typeface
