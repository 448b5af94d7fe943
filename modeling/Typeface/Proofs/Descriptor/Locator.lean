import Mathlib
import Typeface.Proofs.Decimal
import Typeface.Proofs.Descriptor.Display

/-!
# Locators of families

A descriptor of an uploaded family is made of its asset id, and one of a
built-in family of its short name.  Every natural number is an asset id and
nothing else is one.  The locator holds the number in canonical decimal form, or
the name as it stands, so that it leads back to what it was made of, and no
locator is of both kinds.  A number with more digits than may be written has no
locator, and a refusal that would have to write such a number fails as well.
-/

namespace Typeface

open Number

theorem assetLocator_eq (number : Nat) :
    assetLocator number = "rbxassetid://" ++ String.ofList (decimalDigits number) := by
  apply String.toList_inj.mp
  simp only [assetLocator, String.toList_append, toList_decimal, String.toList_ofList]

theorem assetLocator_injective {left right : Nat} (heq : assetLocator left = assetLocator right) :
    left = right := by
  have hletters := congrArg String.toList heq
  simp only [assetLocator, String.toList_append, toList_decimal] at hletters
  apply decimalDigits_injective
  exact List.append_cancel_left hletters

namespace Value

/-- An integer in the value has more digits than may be written. -/
def Unwritable (value : Value) (reason : Unwritten) : Prop :=
  reason = .overlong ∧ value.isWritable = false

theorem written_eq_error_iff {value : Value} {reason : Unwritten} :
    value.written = .error reason ↔ value.Unwritable reason := by
  cases hwritable : value.isWritable <;> simp [written, Unwritable, hwritable, eq_comm]

theorem isWritable_int_of_integer? {asset : Value} {number : Int}
    (hnumber : asset.integer? = some number) : isWritable (.int number) = asset.isWritable := by
  cases asset with
  | int value =>
    cases hnumber
    rfl
  | documentWeight weight =>
    cases hnumber
    cases weight <;> decide
  | documentStyle style =>
    cases hnumber
    cases style <;> decide
  | _ => cases hnumber

end Value

namespace Descriptor

open Value

variable {asset name family givenWeight givenStyle : Value} {weight : Weight} {style : Style}

/-- What should come of a value given as an asset id. -/
inductive Located (asset : Value) (weight : Weight) (style : Style) :
    Except Failure Descriptor → Prop
  | found {number : Nat} {letters : List Char} (hasset : asset.integer? = some (number : Int))
      (hletters : IsNumeral letters number) :
      Located asset weight style
        (.ok { family := .text ("rbxassetid://" ++ String.ofList letters), weight, style })
  | refused (hasset : ∀ number : Nat, asset.integer? ≠ some (number : Int)) :
      Located asset weight style (.error (.fault (.invalidAssetId asset)))

theorem located_of_natural {number : Nat} (hasset : asset.integer? = some (number : Int))
    (outcome : Except Failure Descriptor) :
    Located asset weight style outcome ↔
      outcome = .ok { family := .text (assetLocator number), weight, style } := by
  constructor
  · intro hlocated
    cases hlocated with
    | found hother hletters =>
      rw [hasset, Option.some.injEq, Int.natCast_inj] at hother
      rw [assetLocator_eq, hother, isNumeral_iff.mp hletters]
    | refused hnone => exact absurd hasset (hnone number)
  · rintro rfl
    rw [assetLocator_eq]
    exact .found hasset (isNumeral_decimalDigits number)

theorem located_of_not_natural (hasset : ∀ number : Nat, asset.integer? ≠ some (number : Int))
    (outcome : Except Failure Descriptor) :
    Located asset weight style outcome ↔ outcome = .error (.fault (.invalidAssetId asset)) := by
  constructor
  · intro hlocated
    cases hlocated with
    | found hnatural _ => exact absurd hnatural (hasset _)
    | refused _ => rfl
  · rintro rfl
    exact .refused hasset

theorem make_eq (family : Value) (hweight : weightOf givenWeight = .ok weight)
    (hstyle : styleOf givenStyle = .ok style) :
    make family givenWeight givenStyle = .ok { family, weight, style } := by
  simp only [make, hweight, hstyle]
  rfl

theorem family_of_make {descriptor : Descriptor}
    (hmake : make family givenWeight givenStyle = .ok descriptor) : descriptor.family = family := by
  obtain ⟨_, _, hmake⟩ := bind_eq_ok_iff.mp hmake
  obtain ⟨_, _, hmake⟩ := bind_eq_ok_iff.mp hmake
  cases hmake
  rfl

theorem ofAsset_of_natural {number : Nat} (hasset : asset.integer? = some (number : Int)) :
    ofAsset asset givenWeight givenStyle =
      if asset.isWritable then make (.text (assetLocator number)) givenWeight givenStyle
      else Failure.ofMishap (.ofUnwritten .overlong) := by
  have hnatural : ¬ (number : Int) < 0 := by omega
  simp only [ofAsset, hasset, if_neg hnatural, isWritable_int_of_integer? hasset]

theorem ofAsset_of_not_natural (hasset : ∀ number : Nat, asset.integer? ≠ some (number : Int)) :
    ofAsset asset givenWeight givenStyle = Failure.raise (.invalidAssetId asset) := by
  cases hinteger : asset.integer? with
  | none => simp only [ofAsset, hinteger]
  | some number =>
    have hnegative : number < 0 := by
      by_contra hnatural
      apply hasset number.toNat
      rw [hinteger, Int.toNat_of_nonneg (not_lt.mp hnatural)]
    simp only [ofAsset, hinteger, if_pos hnegative]

theorem message_invalidAssetId_eq_error_iff {reason : Unwritten} :
    (Fault.invalidAssetId asset).message = .error reason ↔ asset.Unwritable reason := by
  rw [← written_eq_error_iff]
  cases hwritten : asset.written <;>
    simp [Fault.message, hwritten, bind, Except.bind, pure, Except.pure]

theorem keeps_ofAsset (asset : Value) (hweight : weightOf givenWeight = .ok weight)
    (hstyle : styleOf givenStyle = .ok style) :
    Failure.Keeps (Located asset weight style) asset.Unwritable
      (ofAsset asset givenWeight givenStyle) := by
  by_cases hasset : ∃ number : Nat, asset.integer? = some (number : Int)
  · obtain ⟨number, hnumber⟩ := hasset
    rw [ofAsset_of_natural hnumber]
    cases hwritable : asset.isWritable with
    | true =>
      rw [if_pos rfl, make_eq _ hweight hstyle]
      apply Failure.keeps_ok (located_of_natural hnumber)
      simp [Unwritable, hwritable]
    | false =>
      rw [if_neg (by decide)]
      apply Failure.keeps_ofUnwritten (located_of_natural hnumber)
      simp [Unwritable, hwritable]
  · rw [not_exists] at hasset
    rw [ofAsset_of_not_natural hasset]
    apply Failure.keeps_raise (located_of_not_natural hasset)
    intro reason
    exact message_invalidAssetId_eq_error_iff.symm

/-! ## What a locator was made of -/

/-- The family of some descriptor by an asset id. -/
def IsFamilyOfAsset (asset family : Value) : Prop :=
  ∃ weight style descriptor, ofAsset asset weight style = .ok descriptor ∧
    descriptor.family = family

/-- The family of some descriptor by a short name. -/
def IsFamilyOfName (name family : Value) : Prop :=
  ∃ weight style descriptor, ofName name weight style = .ok descriptor ∧
    descriptor.family = family

theorem IsFamilyOfAsset.eq_locator (hfamily : IsFamilyOfAsset asset family) :
    ∃ number : Nat, asset.integer? = some (number : Int) ∧
      family = .text (assetLocator number) := by
  obtain ⟨givenWeight, givenStyle, descriptor, hdescriptor, rfl⟩ := hfamily
  by_cases hasset : ∃ number : Nat, asset.integer? = some (number : Int)
  · obtain ⟨number, hnumber⟩ := hasset
    rw [ofAsset_of_natural hnumber] at hdescriptor
    split at hdescriptor
    · exact ⟨number, hnumber, family_of_make hdescriptor⟩
    · cases hdescriptor
  · rw [not_exists] at hasset
    rw [ofAsset_of_not_natural hasset] at hdescriptor
    exact absurd hdescriptor (Failure.raise_ne_ok _ _)

theorem namedLocator_ofCodes (codes : List Nat) :
    namedLocator (.ofCodes codes) =
      .ok (.ofCodes (codesOf familyOpening ++ codes ++ codesOf familyEnding)) := by
  rw [namedLocator, points_ofCodes]
  rfl

/-- Where the name holds no surrogate, its locator is a text. -/
theorem namedLocator_text (content : String) :
    namedLocator (.text content) = .ok (.text (familyLocator content)) := by
  have hcodes : codesOf familyOpening ++ codesOf content ++ codesOf familyEnding =
      codesOf (familyLocator content) := by
    rw [familyLocator, codesOf_append, codesOf_append]
  have htext : Value.ofCodes (codesOf content) = .text content := ofCodes_text content
  rw [← htext, namedLocator_ofCodes, hcodes]
  exact congrArg Except.ok (ofCodes_text (familyLocator content))

theorem ofName_ofCodes (codes : List Nat) (givenWeight givenStyle : Value) :
    ofName (.ofCodes codes) givenWeight givenStyle =
      make (.ofCodes (codesOf familyOpening ++ codes ++ codesOf familyEnding)) givenWeight
        givenStyle := by
  rw [ofName, namedLocator_ofCodes]

theorem IsFamilyOfName.eq_locator {codes : List Nat}
    (hfamily : IsFamilyOfName (.ofCodes codes) family) :
    family = .ofCodes (codesOf familyOpening ++ codes ++ codesOf familyEnding) := by
  obtain ⟨givenWeight, givenStyle, descriptor, hdescriptor, rfl⟩ := hfamily
  rw [ofName_ofCodes] at hdescriptor
  exact family_of_make hdescriptor

theorem IsFamilyOfAsset.injective {other : Value} (hfamily : IsFamilyOfAsset asset family)
    (hother : IsFamilyOfAsset other family) : asset.integer? = other.integer? := by
  obtain ⟨number, hnumber, hlocator⟩ := hfamily.eq_locator
  obtain ⟨second, hsecond, hsame⟩ := hother.eq_locator
  rw [hlocator, Value.text.injEq] at hsame
  rw [hnumber, hsecond, assetLocator_injective hsame]

theorem IsFamilyOfName.injective {codes others : List Nat}
    (hfamily : IsFamilyOfName (.ofCodes codes) family)
    (hother : IsFamilyOfName (.ofCodes others) family) : codes = others := by
  have hlocator := hfamily.eq_locator
  rw [hother.eq_locator] at hlocator
  have hcodes := List.append_cancel_right (ofCodes_injective hlocator)
  exact (List.append_cancel_left hcodes).symm

/-- The two kinds of locators part at the letter behind what they have in common. -/
theorem IsFamilyOfAsset.not_isFamilyOfName {codes : List Nat}
    (hfamily : IsFamilyOfAsset asset family) : ¬ IsFamilyOfName (.ofCodes codes) family := by
  intro hname
  obtain ⟨number, _, hlocator⟩ := hfamily.eq_locator
  have hpoints := congrArg points hlocator
  rw [hname.eq_locator, points_ofCodes, assetLocator_eq] at hpoints
  have hcodes : codesOf familyOpening ++ codes ++ codesOf familyEnding =
      codesOf ("rbxassetid://" ++ String.ofList (decimalDigits number)) := Except.ok.inj hpoints
  have hletter := congrArg (fun points => points[8]?) hcodes
  rw [codesOf_append, List.append_assoc, List.getElem?_append_left (by decide),
    List.getElem?_append_left (by decide)] at hletter
  exact absurd hletter (by decide)

theorem IsFamilyOfAsset.isText (hfamily : IsFamilyOfAsset asset family) : family.IsText := by
  obtain ⟨number, _, rfl⟩ := hfamily.eq_locator
  exact .text _

theorem IsFamilyOfName.isText {codes : List Nat}
    (hfamily : IsFamilyOfName (.ofCodes codes) family) : family.IsText :=
  ⟨_, hfamily.eq_locator⟩

/-- With a valid weight and style, an asset id comes to its one promised outcome, unless an integer
that is in it cannot be written, and every text, surrogates or none, is a short name.  Equal
locators of asset ids are of one number, equal locators of short names are of one name, and no
locator is of both kinds. -/
theorem locators_lead_back (hweight : weightOf givenWeight = .ok weight)
    (hstyle : styleOf givenStyle = .ok style) :
    (∀ asset, Failure.Keeps (Located asset weight style) asset.Unwritable
      (ofAsset asset givenWeight givenStyle)) ∧
    (∀ codes, ofName (.ofCodes codes) givenWeight givenStyle =
      .ok { family := .ofCodes (codesOf familyOpening ++ codes ++ codesOf familyEnding)
            weight, style }) ∧
    (∀ content, ofName (.text content) givenWeight givenStyle =
      .ok { family := .text ("rbxasset://fonts/families/" ++ content ++ ".json")
            weight, style }) ∧
    (∀ asset other family same, IsFamilyOfAsset asset family → IsFamilyOfAsset other same →
      family.equal same = true → asset.integer? = other.integer?) ∧
    (∀ name other family same, name.IsText → other.IsText → IsFamilyOfName name family →
      IsFamilyOfName other same → family.equal same = true → name = other) ∧
    ∀ asset name family other, name.IsText → IsFamilyOfAsset asset family →
      IsFamilyOfName name other → family.equal other = false := by
  refine ⟨fun asset => keeps_ofAsset asset hweight hstyle, ?_, ?_, ?_, ?_, ?_⟩
  · intro codes
    rw [ofName_ofCodes, make_eq _ hweight hstyle]
  · intro content
    rw [ofName, namedLocator_text]
    exact make_eq _ hweight hstyle
  · intro asset other family same hfamily hsame hequal
    obtain rfl := hfamily.isText.equal_iff.mp hequal
    exact hfamily.injective hsame
  · rintro _ _ family same ⟨codes, rfl⟩ ⟨others, rfl⟩ hfamily hsame hequal
    obtain rfl := hfamily.isText.equal_iff.mp hequal
    rw [hfamily.injective hsame]
  · rintro asset _ family other ⟨codes, rfl⟩ hfamily hother
    rw [Bool.eq_false_iff]
    intro hequal
    obtain rfl := hfamily.isText.equal_iff.mp hequal
    exact hfamily.not_isFamilyOfName hother

/-- A short name that looks like a template is taken as it stands. -/
theorem locators_lead_back_template :
    weightOf (Item.ofWeight .bold) = .ok .bold ∧ styleOf (.style .italic) = .ok .italic ∧
      ofName (.text "\x7basset_id\x7d") (Item.ofWeight .bold) (.style .italic) =
        .ok { family := .text "rbxasset://fonts/families/\x7basset_id\x7d.json"
              weight := .bold, style := .italic } ∧
      ofAsset (.int (-1)) (Item.ofWeight .bold) (.style .italic) =
        .error (.fault (.invalidAssetId (.int (-1)))) := by
  have hweight : weightOf (Item.ofWeight .bold) = .ok .bold := rfl
  have hstyle : styleOf (.style .italic) = .ok .italic := rfl
  obtain ⟨hassets, _, hnames, _⟩ := locators_lead_back hweight hstyle
  refine ⟨hweight, hstyle, hnames "\x7basset_id\x7d", ?_⟩
  obtain ⟨promised, hunique, hkept⟩ := (hassets (.int (-1))).promise
  have hrefused : Located (.int (-1)) .bold .italic
      (.error (.fault (.invalidAssetId (.int (-1))))) := by
    apply Located.refused
    intro number hnumber
    have hnegative : (-1 : Int) = number := Option.some.inj hnumber
    omega
  rw [(hunique _).mp hrefused]
  apply hkept.mpr
  rintro reason ⟨_, hunwritable⟩
  exact absurd hunwritable (by decide)

namespace Sample

/-- The least number with too many digits to be written. -/
def tooLong : Nat := Nat.pow 10 digitLimit

theorem not_isWritable_tooLong : isWritable (.int tooLong) = false := by
  unfold tooLong
  have hlength := lt_length_decimalDigits_pow digitLimit (by decide)
  rw [isWritable, isShort, Int.natAbs_natCast]
  exact decide_eq_false (Nat.not_le.mpr hlength)

end Sample

/-- A natural number with too many digits to be written is no asset id. -/
theorem locators_lead_back_overlong :
    Located (.int Sample.tooLong) .regular .normal
        (.ok { family := .text (assetLocator Sample.tooLong), weight := .regular
               style := .normal }) ∧
      ofAsset (.int Sample.tooLong) defaultWeight defaultStyle = .error (.mishap .wrongValue) := by
  have hnumber : (Value.int Sample.tooLong).integer? = some (Sample.tooLong : Int) := rfl
  constructor
  · exact (located_of_natural hnumber _).mpr rfl
  · rw [ofAsset_of_natural hnumber, Sample.not_isWritable_tooLong]
    rfl

end Descriptor

end Typeface
