import Mathlib
import Typeface.Proofs.Document.Accepted
import Typeface.Proofs.Document.Drift

/-!
# What conversion keeps

A descriptor has a form in documents if its family spells a text.  The form has
this text, the codes of weight and style and no cached face, so it converts back
to the descriptor exactly if the family is that text itself: bytes and members
of enumerations are recast on the way.  An accepted font always converts, and
loses its cached face alone.
-/

namespace Typeface

theorem Descriptor.same_iff {left right : Descriptor} :
    left.same right = true ↔ left.family.equal right.family = true ∧
      left.weight = right.weight ∧ left.style = right.style := by
  simp [same, value, Value.equal, and_assoc]

namespace Document

theorem Weight.eq_of_code_eq {left right : Weight} (hcode : (left.code : Int) = right.code) :
    left = right :=
  eq_of_key_eq ofCode?_code hcode

theorem Style.eq_of_code_eq {left right : Style} (hcode : (left.code : Int) = right.code) :
    left = right :=
  eq_of_key_eq ofCode?_code hcode

theorem Weight.equal_iff {left right : Weight} :
    (Value.documentWeight left).equal (.documentWeight right) = true ↔ left = right := by
  constructor
  · intro hequal
    exact eq_of_code_eq (by simpa [Value.equal, Value.numeric?, Value.equalNumbers] using hequal)
  · rintro rfl
    simp [Value.equal, Value.numeric?, Value.equalNumbers]

theorem Style.equal_iff {left right : Style} :
    (Value.documentStyle left).equal (.documentStyle right) = true ↔ left = right := by
  constructor
  · intro hequal
    exact eq_of_code_eq (by simpa [Value.equal, Value.numeric?, Value.equalNumbers] using hequal)
  · rintro rfl
    simp [Value.equal, Value.numeric?, Value.equalNumbers]

namespace Font

theorem equal_face_iff {left right : Option HostText} :
    (Value.ofOption HostText.value left).equal (.ofOption HostText.value right) = true ↔
      left = right := by
  cases left with
  | none =>
    cases right with
    | none => simp [Value.ofOption, Value.equal]
    | some right => simp [Value.ofOption, right.null_equal_value]
  | some left =>
    cases right with
    | none => simp [Value.ofOption, left.value_ne_null]
    | some right => simp [Value.ofOption]

theorem same_raw_iff {left right : Font} : left.raw.same right.raw = true ↔ left = right := by
  simp only [RawFont.same, raw, Bool.and_eq_true, HostText.equal_value_iff, HostText.value_inj,
    Weight.equal_iff, Style.equal_iff, equal_face_iff]
  cases left
  cases right
  simp [and_assoc]

/-- A font whose weight and style are members already is accepted if its family is. -/
theorem ofFields_members (family : Value) (weight : Weight) (style : Style) :
    ofFields [("family", family), ("weight", .documentWeight weight),
        ("style", .documentStyle style), ("cached_face_id", .null)] =
      (Checked.field "family" Coercion.text family).map fun family =>
        { family, weight, style, cachedFace := none } := by
  generalize hfields : [("family", family), ("weight", .documentWeight weight),
    ("style", .documentStyle style), ("cached_face_id", .null)] = fields
  have hgiven : fields.lookup "family" = some family ∧
      fields.lookup "weight" = some (.documentWeight weight) ∧
      fields.lookup "style" = some (.documentStyle style) ∧
      fields.lookup "cached_face_id" = some .null := by
    rw [← hfields]
    exact ⟨rfl, rfl, rfl, rfl⟩
  obtain ⟨hfamily, hweight, hstyle, hface⟩ := hgiven
  have hweightOf : Checked.field "weight" weightOf (.documentWeight weight) = .ok weight :=
    Checked.field_eq_ok_iff.mpr (weightOf_eq_ok_iff.mpr rfl)
  have hstyleOf : Checked.field "style" styleOf (.documentStyle style) = .ok style :=
    Checked.field_eq_ok_iff.mpr (styleOf_eq_ok_iff.mpr rfl)
  simp only [ofFields, Checked.required, Checked.defaulted, hfamily, hweight, hstyle, hface,
    hweightOf, hstyleOf]
  cases Checked.field "family" Coercion.text family <;> rfl

end Font

end Document

namespace Conversion

theorem weightToDocument_ok (weight : Weight) :
    ∃ known, weightToDocument (.weight weight) = (.ok known, []) ∧ known.code = weight.code := by
  cases weight <;> exact ⟨_, rfl, rfl⟩

theorem styleToDocument_ok (style : Style) :
    ∃ known, styleToDocument (.style style) = (.ok known, []) ∧ known.code = style.code := by
  cases style <;> exact ⟨_, rfl, rfl⟩

theorem exists_weight_code (known : Document.Weight) :
    ∃ weight : Weight, known.code = weight.code := by
  have hall : ∀ known ∈ Document.Weight.all, ∃ weight ∈ Weight.all, known.code = weight.code := by
    decide
  obtain ⟨weight, _, hcode⟩ := hall known (Document.Weight.mem_all known)
  exact ⟨weight, hcode⟩

theorem exists_style_code (known : Document.Style) :
    ∃ style : Style, known.code = style.code := by
  have hall : ∀ known ∈ Document.Style.all, ∃ style ∈ Style.all, known.code = style.code := by
    decide
  obtain ⟨style, _, hcode⟩ := hall known (Document.Style.mem_all known)
  exact ⟨style, hcode⟩

/-- A font with the codes of a descriptor and no cached face. -/
structure Bears (font : Document.Font) (descriptor : Descriptor) : Prop where
  weight : font.weight.code = descriptor.weight.code
  style : font.style.code = descriptor.style.code
  face : font.cachedFace = none

variable {descriptor : Descriptor} {font : Document.Font}

theorem toDocument_of_text {family : HostText}
    (hfamily : Coercion.text descriptor.family = .ok family) :
    ∃ font, toDocument descriptor = (.ok font, []) ∧ font.family = family ∧
      Bears font descriptor := by
  obtain ⟨weight, hweight, hweightCode⟩ := weightToDocument_ok descriptor.weight
  obtain ⟨style, hstyle, hstyleCode⟩ := styleToDocument_ok descriptor.style
  refine ⟨{ family, weight, style, cachedFace := none }, ?_, rfl, hweightCode, hstyleCode, rfl⟩
  simp only [toDocument, andThen, hweight, hstyle, Document.Font.ofFields_members,
    Checked.field_eq_ok_iff.mpr hfamily]
  rfl

theorem toDocument_of_defect {defect : Defect}
    (hfamily : Coercion.text descriptor.family = .error defect) :
    toDocument descriptor =
      (.error (.mishap (.invalid [{ place := [.field "family"], defect }])), []) := by
  obtain ⟨weight, hweight, _⟩ := weightToDocument_ok descriptor.weight
  obtain ⟨style, hstyle, _⟩ := styleToDocument_ok descriptor.style
  simp only [toDocument, andThen, hweight, hstyle, Document.Font.ofFields_members, Checked.field,
    hfamily]
  rfl

theorem Bears.unique {other : Document.Font} (hbears : Bears font descriptor)
    (hother : Bears other descriptor) (hfamily : font.family = other.family) : font = other := by
  have hweight : font.weight = other.weight :=
    Document.Weight.eq_of_code_eq (congrArg Nat.cast (hbears.weight.trans hother.weight.symm))
  have hstyle : font.style = other.style :=
    Document.Style.eq_of_code_eq (congrArg Nat.cast (hbears.style.trans hother.style.symm))
  have hface : font.cachedFace = other.cachedFace := hbears.face.trans hother.face.symm
  cases font
  cases other
  simp_all

theorem toDocument_eq_ok_iff :
    toDocument descriptor = (.ok font, []) ↔
      Coercion.text descriptor.family = .ok font.family ∧ Bears font descriptor := by
  constructor
  · intro hfont
    cases hfamily : Coercion.text descriptor.family with
    | error defect =>
      rw [toDocument_of_defect hfamily] at hfont
      cases hfont
    | ok family =>
      obtain ⟨found, hfound, rfl, hbears⟩ := toDocument_of_text hfamily
      rw [hfound] at hfont
      cases hfont
      exact ⟨rfl, hbears⟩
  · rintro ⟨hfamily, hbears⟩
    obtain ⟨found, hfound, hsame, hother⟩ := toDocument_of_text hfamily
    rw [hfound, hother.unique hbears hsame]

/-- Converting leaves no record, so the outcome says all. -/
theorem fst_toDocument_eq_ok_iff :
    (toDocument descriptor).1 = .ok font ↔ toDocument descriptor = (.ok font, []) := by
  cases hfamily : Coercion.text descriptor.family with
  | error defect => simp [toDocument_of_defect hfamily]
  | ok family =>
    obtain ⟨found, hfound, _⟩ := toDocument_of_text hfamily
    simp [hfound]

theorem Bears.ofDocument_raw (hbears : Bears font descriptor) :
    ofDocument font.raw = (.ok { descriptor with family := font.family.value }, []) :=
  Conversion.ofDocument_raw rfl hbears.weight hbears.style

/-- Every form of the descriptor in documents is without a cached face and converts back to an
equal descriptor. -/
def Kept (descriptor : Descriptor) : Prop :=
  ∀ font, (toDocument descriptor).1 = .ok font → font.cachedFace = none ∧
    ∃ restored, ofDocument font.raw = (.ok restored, []) ∧ restored.same descriptor = true

theorem kept_iff : Kept descriptor ↔ ∀ shown, ¬ Coercion.Recast descriptor.family shown := by
  constructor
  · intro hkept shown hrecast
    have hfamily := Coercion.text_eq_ok_iff.mpr (.inr hrecast)
    obtain ⟨font, hfont, rfl, hbears⟩ := toDocument_of_text hfamily
    obtain ⟨_, restored, hrestored, hsame⟩ := hkept font (fst_toDocument_eq_ok_iff.mpr hfont)
    rw [hbears.ofDocument_raw] at hrestored
    cases hrestored
    rw [Descriptor.same_iff, HostText.equal_value_iff] at hsame
    exact hrecast.sort_ne (hsame.1 ▸ font.family.sort_value)
  · intro hfixed font hfont
    rw [fst_toDocument_eq_ok_iff, toDocument_eq_ok_iff, Coercion.text_eq_ok_iff] at hfont
    obtain ⟨hfamily, hbears⟩ := hfont
    have htext : descriptor.family = font.family.value := hfamily.resolve_right (hfixed _)
    refine ⟨hbears.face, _, hbears.ofDocument_raw, ?_⟩
    rw [Descriptor.same_iff, HostText.equal_value_iff]
    exact ⟨htext.symm, rfl, rfl⟩

/-- Conversion keeps a descriptor exactly if its family is not recast.  It succeeds where the family
is a text or recast to one, and what comes back has this text as family and all else unchanged.
Every other family is refused, and the complaint is about the family alone. -/
theorem toDocument_kept_iff (descriptor : Descriptor) :
    (Kept descriptor ↔ ∀ shown, ¬ Coercion.Recast descriptor.family shown) ∧
    (∀ font, toDocument descriptor = (.ok font, []) ↔
      (descriptor.family = font.family.value ∨ Coercion.Recast descriptor.family font.family) ∧
        Bears font descriptor) ∧
    (∀ font, toDocument descriptor = (.ok font, []) →
      ofDocument font.raw = (.ok { descriptor with family := font.family.value }, [])) ∧
    ((∀ shown,
        descriptor.family ≠ HostText.value shown ∧ ¬ Coercion.Recast descriptor.family shown) →
      ∃ defect, toDocument descriptor =
        (.error (.mishap (.invalid [{ place := [.field "family"], defect }])), [])) := by
  refine ⟨kept_iff, fun font => ?_, fun font hfont => ?_, fun hwanting => ?_⟩
  · rw [toDocument_eq_ok_iff, Coercion.text_eq_ok_iff]
  · exact (toDocument_eq_ok_iff.mp hfont).2.ofDocument_raw
  · cases hfamily : Coercion.text descriptor.family with
    | error defect => exact ⟨defect, toDocument_of_defect hfamily⟩
    | ok family => exact absurd (Coercion.text_eq_ok_iff.mp hfamily) (not_or.mpr (hwanting family))

namespace Sample

/-- A descriptor whose family is the bytes of a text. -/
def encoded : Descriptor where
  family := .bytes [0x41]
  weight := .regular
  style := .normal

end Sample

theorem toDocument_kept_encoded :
    Descriptor.make (.bytes [0x41]) Descriptor.defaultWeight Descriptor.defaultStyle =
        .ok Sample.encoded ∧
      ¬ Kept Sample.encoded := by
  have hrecast : Coercion.Recast Sample.encoded.family "A" := .bytes (by decide)
  refine ⟨rfl, fun hkept => ?_⟩
  exact kept_iff.mp hkept "A" hrecast

/-! ## Accepted fonts -/

theorem ofDocument_accepted (font : Document.Font) :
    ∃ descriptor, ofDocument font.raw = (.ok descriptor, []) ∧
      descriptor.family = font.family.value ∧ Bears { font with cachedFace := none } descriptor := by
  obtain ⟨weight, hweight⟩ := exists_weight_code font.weight
  obtain ⟨style, hstyle⟩ := exists_style_code font.style
  exact ⟨{ family := font.family.value, weight, style }, ofDocument_raw rfl hweight hstyle, rfl,
    hweight, hstyle, rfl⟩

/-- What an accepted font converts to says all about it but its cached face. -/
theorem same_iff_of_bears {left right : Document.Font} {leftDescriptor rightDescriptor : Descriptor}
    (hleft : Bears left leftDescriptor) (hleftFamily : leftDescriptor.family = left.family.value)
    (hright : Bears right rightDescriptor)
    (hrightFamily : rightDescriptor.family = right.family.value) :
    leftDescriptor.same rightDescriptor = true ↔ left = right := by
  rw [Descriptor.same_iff, hleftFamily, hrightFamily, HostText.equal_value_iff, HostText.value_inj]
  constructor
  · rintro ⟨hfamily, hweight, hstyle⟩
    have hmoved : Bears right leftDescriptor :=
      ⟨hweight ▸ hright.weight, hstyle ▸ hright.style, hright.face⟩
    exact hleft.unique hmoved hfamily
  · rintro rfl
    refine ⟨rfl, Weight.eq_of_code_eq ?_, Style.eq_of_code_eq ?_⟩
    · rw [← hleft.weight, hright.weight]
    · rw [← hleft.style, hright.style]

/-- A font that is accepted converts without a record, and what it converts to has the font as its
form but for the cached face.  Two accepted fonts convert to equal descriptors exactly if they are
equal but for the cached face. -/
theorem accepted_font_converts :
    (∀ fields font, Document.Font.ofFields fields = .ok font →
      font.Spelled fields ∧
      ∃ descriptor, ofDocument font.raw = (.ok descriptor, []) ∧
        toDocument descriptor = (.ok { font with cachedFace := none }, [])) ∧
    ∀ leftFields rightFields left right leftDescriptor rightDescriptor,
      Document.Font.ofFields leftFields = .ok left →
      Document.Font.ofFields rightFields = .ok right →
      (ofDocument left.raw).1 = .ok leftDescriptor →
      (ofDocument right.raw).1 = .ok rightDescriptor →
      (leftDescriptor.same rightDescriptor = true ↔
        { left with cachedFace := none : Document.Font }.raw.same
          { right with cachedFace := none : Document.Font }.raw = true) := by
  constructor
  · intro fields font haccepted
    obtain ⟨descriptor, hdescriptor, hfamily, hbears⟩ := ofDocument_accepted font
    refine ⟨Document.Font.ofFields_eq_ok_iff.mp haccepted, descriptor, hdescriptor, ?_⟩
    rw [toDocument_eq_ok_iff, hfamily]
    exact ⟨Coercion.text_value font.family, hbears⟩
  · intro _ _ left right leftDescriptor rightDescriptor _ _ hleft hright
    obtain ⟨found, hfound, hleftFamily, hleftBears⟩ := ofDocument_accepted left
    obtain ⟨other, hother, hrightFamily, hrightBears⟩ := ofDocument_accepted right
    rw [hfound] at hleft
    rw [hother] at hright
    cases hleft
    cases hright
    rw [Document.Font.same_raw_iff]
    exact same_iff_of_bears hleftBears hleftFamily hrightBears hrightFamily

namespace Sample

/-- The family as bytes, the weight as a numeral and the style as a truth value. -/
def spelled : Fields :=
  [("family", .bytes [0x41]), ("weight", .text " 0400 "), ("style", .bool true),
    ("cached_face_id", .text "face")]

def spelledFont : Document.Font where
  family := "A"
  weight := .regular
  style := .italic
  cachedFace := some "face"

/-- The same font without a face; its weight is the default. -/
def faceless : Fields :=
  [("family", .text "A"), ("style", .documentStyle .italic)]

end Sample

theorem accepted_font_converts_spelled :
    Document.Font.ofFields Sample.spelled = .ok Sample.spelledFont ∧
      Document.Font.ofFields Sample.faceless =
        .ok { Sample.spelledFont with cachedFace := none } ∧
      ∃ descriptor other, ofDocument Sample.spelledFont.raw = (.ok descriptor, []) ∧
        (ofDocument { Sample.spelledFont with cachedFace := none : Document.Font }.raw).1 =
          .ok other ∧ descriptor.same other = true := by
  have hspelled : Document.Font.ofFields Sample.spelled = .ok Sample.spelledFont := by cbv
  have hfaceless : Document.Font.ofFields Sample.faceless =
      .ok { Sample.spelledFont with cachedFace := none } := by cbv
  obtain ⟨_, descriptor, hdescriptor, _⟩ := accepted_font_converts.1 _ _ hspelled
  obtain ⟨_, other, hother, _⟩ := accepted_font_converts.1 _ _ hfaceless
  refine ⟨hspelled, hfaceless, descriptor, other, hdescriptor, by rw [hother], ?_⟩
  have hequal := accepted_font_converts.2 _ _ _ _ descriptor other hspelled hfaceless
    (by rw [hdescriptor]) (by rw [hother])
  exact hequal.mpr (Document.Font.same_raw_iff.mpr rfl)

end Conversion

end Typeface
