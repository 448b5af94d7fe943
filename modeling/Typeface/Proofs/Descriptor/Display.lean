import Mathlib
import Typeface.Proofs.Descriptor
import Typeface.Proofs.Document.Lossless
import Typeface.Proofs.Text.Quoted

/-!
# What descriptors show of themselves

A descriptor whose family is a text shows all of its identity: in its text, in
its literal and in its mapping.  The text puts the names of weight and style
behind the family, and no name holds a blank, so that they are found from the
end.  The literal quotes the family, and a quoted text leads back to it.
-/

namespace Typeface

open Text

/-- A separator is found from the end where it does not stand behind itself. -/
theorem append_cons_inj_of_not_mem {α : Type} {separator : α} {left right ending ending' : List α}
    (hending : separator ∉ ending) (hending' : separator ∉ ending')
    (heq : left ++ separator :: ending = right ++ separator :: ending') :
    left = right ∧ ending = ending' := by
  rcases List.append_eq_append_iff.mp heq with ⟨middle, hright, htail⟩ | ⟨middle, hleft, htail⟩
  · cases middle with
    | nil => simp_all
    | cons first middle =>
      refine absurd ?_ hending
      simp [(List.cons.inj htail).2]
  · cases middle with
    | nil => simp_all
    | cons first middle =>
      refine absurd ?_ hending'
      simp [(List.cons.inj htail).2]

namespace Value

variable {codes : List Nat} {letters : List Char}

/-- A text of which every code point is one of Unicode.  Surrogates are among these. -/
def IsUnicode (value : Value) : Prop :=
  ∃ codes, (∀ code ∈ codes, code < 0x110000) ∧ value = .ofCodes codes

theorem IsUnicode.isText {value : Value} (hunicode : IsUnicode value) : IsText value := by
  obtain ⟨codes, _, hvalue⟩ := hunicode
  exact ⟨codes, hvalue⟩

theorem isUnicode_text (content : String) : IsUnicode (.text content) := by
  refine ⟨content.toList.map Char.toNat, ?_, (ofCodes_text content).symm⟩
  intro code hcode
  obtain ⟨letter, _, rfl⟩ := List.mem_map.mp hcode
  have hvalid : letter.toNat < 0xD800 ∨ 0xDFFF < letter.toNat ∧ letter.toNat < 0x110000 :=
    letter.valid
  omega

theorem literal_ofCodes (codes : List Nat) : literal (.ofCodes codes) = quotedPoints codes := by
  unfold ofCodes
  split
  · next letters hletters =>
    have hliteral : literal (.text (String.ofList letters)) = quoted (String.ofList letters) := rfl
    rw [hliteral, quoted, String.toList_ofList, ← quotedPoints_toNat,
      toNat_of_mapM_scalar? hletters]
  · rfl

theorem codesOf_append (left right : String) :
    codesOf (left ++ right) = codesOf left ++ codesOf right := by
  simp [codesOf]

theorem codesOf_injective : Function.Injective codesOf := by
  intro left right heq
  have hletters : left.toList = right.toList := by
    apply List.map_injective_iff.mpr _ heq
    exact fun _ _ => Char.toNat_inj.mp
  exact String.toList_inj.mp hletters

end Value

namespace Descriptor

open Value

variable {left right : Descriptor} {codes others : List Nat}

theorem eq_iff : left = right ↔
    left.family = right.family ∧ left.weight = right.weight ∧ left.style = right.style := by
  cases left
  cases right
  simp

theorem same_iff_eq (hleft : left.family.IsUnicode) : left.same right = true ↔ left = right := by
  rw [same_iff, hleft.isText.equal_iff, eq_iff]

theorem equal_toMapping_iff :
    equal left.toMapping right.toMapping = true ↔ left.same right = true := by
  have hweight : left.weight.name = right.weight.name ↔ left.weight = right.weight :=
    ⟨Weight.eq_of_name_eq, congrArg Weight.name⟩
  have hstyle : left.style.name = right.style.name ↔ left.style = right.style :=
    ⟨Style.eq_of_name_eq, congrArg Style.name⟩
  rw [same_iff]
  simp [toMapping, equal, entriesWithin, hweight, hstyle]

/-- The text of a descriptor: its family, and the names of weight and style behind it. -/
theorem points_value_eq_map (descriptor : Descriptor) :
    points descriptor.value = (points descriptor.family).map fun shown =>
      shown ++ codesOf (", " ++ descriptor.weight.name ++ ", " ++ descriptor.style.name) := rfl

theorem points_value {descriptor : Descriptor} (hfamily : descriptor.family = .ofCodes codes) :
    points descriptor.value =
      .ok (codes ++ codesOf (", " ++ descriptor.weight.name ++ ", " ++ descriptor.style.name)) := by
  rw [points_value_eq_map, hfamily, points_ofCodes]
  rfl

/-- The literal of a descriptor: its family quoted, and the identifiers of weight and style. -/
theorem literal_value {descriptor : Descriptor} (hfamily : descriptor.family = .ofCodes codes) :
    (literal descriptor.value).toList =
      "FontDescriptor(family=".toList ++ ((quotedPoints codes).toList ++
        (", weight=WeightScale.".toList ++ (descriptor.weight.identifier.toList ++
          (", style=StyleKind.".toList ++ (descriptor.style.identifier.toList ++ ")".toList))))) := by
  have hliteral : literal descriptor.value = "FontDescriptor(family=" ++ literal descriptor.family ++
      ", weight=WeightScale." ++ descriptor.weight.identifier ++ ", style=StyleKind." ++
        descriptor.style.identifier ++ ")" := rfl
  rw [hliteral, hfamily, literal_ofCodes]
  simp only [String.toList_append, List.append_assoc]

theorem blank_not_mem_weight (weight : Weight) : ' '.toNat ∉ codesOf weight.name := by
  cases weight <;> decide

theorem blank_not_mem_style (style : Style) : ' '.toNat ∉ codesOf style.name := by
  cases style <;> decide

theorem dot_not_mem_style (style : Style) : '.' ∉ style.identifier.toList ++ ")".toList := by
  cases style <;> decide

/-- The text is read from its end: the last blank stands in front of the name of the style, and the
one before it in front of the name of the weight. -/
theorem eq_of_shown_eq (hleft : left.family = .ofCodes codes) (hright : right.family = .ofCodes others)
    (heq : shown left.value = shown right.value) : left = right := by
  have hstyleShape : ∀ (codes : List Nat) (weight style : String),
      codes ++ codesOf (", " ++ weight ++ ", " ++ style) =
        codes ++ codesOf ", " ++ codesOf weight ++ codesOf "," ++ ' '.toNat :: codesOf style := by
    intro codes weight style
    simp [codesOf]
  have hweightShape : ∀ (codes : List Nat) (weight : String),
      codes ++ codesOf ", " ++ codesOf weight =
        codes ++ codesOf "," ++ ' '.toNat :: codesOf weight := by
    intro codes weight
    simp [codesOf]
  simp only [shown, points_value hleft, points_value hright, Except.map, Except.ok.injEq] at heq
  have hpoints := ofCodes_injective heq
  rw [hstyleShape, hstyleShape] at hpoints
  obtain ⟨hfront, hstyle⟩ := append_cons_inj_of_not_mem (blank_not_mem_style left.style)
    (blank_not_mem_style right.style) hpoints
  have hweights := List.append_cancel_right hfront
  rw [hweightShape, hweightShape] at hweights
  obtain ⟨hfamily, hweight⟩ := append_cons_inj_of_not_mem (blank_not_mem_weight left.weight)
    (blank_not_mem_weight right.weight) hweights
  have hcodes := List.append_cancel_right hfamily
  apply eq_iff.mpr
  exact ⟨by rw [hleft, hright, hcodes], Weight.eq_of_name_eq (codesOf_injective hweight),
    Style.eq_of_name_eq (codesOf_injective hstyle)⟩

/-- The literal is read from its front up to the mark that closes the family. -/
theorem eq_of_literal_eq (hleft : left.family = .ofCodes codes)
    (hright : right.family = .ofCodes others) (hcodes : ∀ code ∈ codes, code < 0x110000)
    (hothers : ∀ code ∈ others, code < 0x110000)
    (heq : literal left.value = literal right.value) : left = right := by
  have hletters := congrArg String.toList heq
  rw [literal_value hleft, literal_value hright] at hletters
  have hquoted := List.append_cancel_left hletters
  obtain ⟨hfamily, hrest⟩ := quotedPoints_append_inj hcodes hothers hquoted
  have hmembers := List.append_cancel_left hrest
  have hshape : ∀ (weight : Weight) (style : Style),
      weight.identifier.toList ++ (", style=StyleKind.".toList ++
          (style.identifier.toList ++ ")".toList)) =
        (weight.identifier.toList ++ ", style=StyleKind".toList) ++
          '.' :: (style.identifier.toList ++ ")".toList) := by
    intro weight style
    simp
  rw [hshape, hshape] at hmembers
  obtain ⟨hfront, hend⟩ := append_cons_inj_of_not_mem (dot_not_mem_style left.style)
    (dot_not_mem_style right.style) hmembers
  have hweight := String.toList_inj.mp (List.append_cancel_right hfront)
  have hstyle := String.toList_inj.mp (List.append_cancel_right hend)
  apply eq_iff.mpr
  exact ⟨by rw [hleft, hright, hfamily], Weight.eq_of_identifier_eq hweight,
    Style.eq_of_identifier_eq hstyle⟩

/-- Descriptors with texts as families are equal exactly if they compare as the same, if their
texts are the same, if their literals are, and if their mappings are. -/
theorem same_tfae_display (hleft : left.family.IsUnicode) (hright : right.family.IsUnicode) :
    [left = right, left.same right = true, shown left.value = shown right.value,
      literal left.value = literal right.value,
      equal left.toMapping right.toMapping = true].TFAE := by
  have hsame : left.same right = true ↔ left = right := same_iff_eq hleft
  obtain ⟨codes, hcodes, hleft⟩ := hleft
  obtain ⟨others, hothers, hright⟩ := hright
  tfae_have 1 ↔ 2 := hsame.symm
  tfae_have 2 ↔ 5 := equal_toMapping_iff.symm
  tfae_have 1 → 3 := by
    rintro rfl
    rfl
  tfae_have 3 → 1 := eq_of_shown_eq hleft hright
  tfae_have 1 → 4 := by
    rintro rfl
    rfl
  tfae_have 4 → 1 := eq_of_literal_eq hleft hright hcodes hothers
  tfae_finish

/-- A lone surrogate and the text that quotes it are different families, and show as such. -/
theorem same_tfae_display_surrogate :
    (Value.brokenText ⟨[0xD800], rfl⟩).IsUnicode ∧ (Value.text "'\\ud800'").IsUnicode ∧
      shown (Descriptor.value ⟨.brokenText ⟨[0xD800], rfl⟩, .bold, .normal⟩) ≠
        shown (Descriptor.value ⟨.text "'\\ud800'", .bold, .normal⟩) ∧
      literal (Descriptor.value ⟨.brokenText ⟨[0xD800], rfl⟩, .bold, .normal⟩) ≠
        literal (Descriptor.value ⟨.text "'\\ud800'", .bold, .normal⟩) := by
  have hsurrogate : (Value.brokenText ⟨[0xD800], rfl⟩).IsUnicode := ⟨[0xD800], by decide, rfl⟩
  have htext : (Value.text "'\\ud800'").IsUnicode := isUnicode_text _
  have hdisplay := @same_tfae_display ⟨.brokenText ⟨[0xD800], rfl⟩, .bold, .normal⟩
    ⟨.text "'\\ud800'", .bold, .normal⟩ hsurrogate htext
  refine ⟨hsurrogate, htext, fun hshown => ?_, fun hliteral => ?_⟩
  · exact absurd ((hdisplay.out 0 2).mpr hshown) (by simp)
  · exact absurd ((hdisplay.out 0 3).mpr hliteral) (by simp)

end Descriptor

end Typeface
