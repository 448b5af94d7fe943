import Typeface.Conversion
import Typeface.Proofs.Enumeration
import Typeface.Proofs.Value

/-!
# Codes adrift

A font of a document converts if its weight and its style come to the codes of a
weight and a style.  Otherwise the first field adrift is reported with its value
after one record, unless the value is an infinity or cannot be written.  A value
that comes to a code need not be an integer: truth values, fractions and numerals
pass for the integers that they come to.
-/

namespace Typeface.Conversion

open Typeface.Number

/-- A value that comes to an integer without being one. -/
inductive Loose : Value → Int → Prop
  | truth (value : Bool) : Loose (.bool value) (if value then 1 else 0)
  | fraction {number : Binary64} {whole : Int} (hwhole : number.truncate? = some whole) :
      Loose (.float number) whole
  | numeral {content : String} {whole : Int} (hwhole : plainInteger? content = some whole) :
      Loose (.text content) whole
  | bytes {content : Text.Bytes} {whole : Int}
      (hwhole : plainIntegerOfBytes? content = some whole) :
      Loose (.bytes content) whole

/-- A value that is an integer or comes to one. -/
def Spells (value : Value) (whole : Int) : Prop :=
  value.integer? = some whole ∨ Loose value whole

theorem Loose.integer?_eq_none {value : Value} {whole : Int} (hloose : Loose value whole) :
    value.integer? = none := by
  cases hloose <;> rfl

theorem wholeOf_eq_ok_iff (value : Value) (whole : Int) :
    wholeOf value = .ok whole ↔ Spells value whole := by
  constructor
  · intro hwhole
    cases value with
    | int value => exact .inl (by simpa [wholeOf, Value.integer?] using hwhole)
    | documentWeight value => exact .inl (by simpa [wholeOf, Value.integer?] using hwhole)
    | documentStyle value => exact .inl (by simpa [wholeOf, Value.integer?] using hwhole)
    | bool value =>
      simp only [wholeOf, Except.ok.injEq] at hwhole
      exact .inr (hwhole ▸ .truth value)
    | float number =>
      cases number with
      | finite negative significand exponent =>
        simp only [wholeOf, Binary64.truncate?, Option.getD_some, Except.ok.injEq] at hwhole
        exact .inr (.fraction (congrArg some hwhole))
      | nan => simp [wholeOf] at hwhole
      | infinite negative => simp [wholeOf] at hwhole
    | text content =>
      cases hread : plainInteger? content with
      | some read => exact .inr (.numeral (by simpa [wholeOf, hread] using hwhole))
      | none => simp [wholeOf, hread] at hwhole
    | bytes content =>
      cases hread : plainIntegerOfBytes? content with
      | some read => exact .inr (.bytes (by simpa [wholeOf, hread] using hwhole))
      | none => simp [wholeOf, hread] at hwhole
    | _ => simp [wholeOf] at hwhole
  · rintro (hinteger | hloose)
    · cases value <;> simp_all [Value.integer?, wholeOf]
    · cases hloose with
      | truth value => rfl
      | @fraction number whole hwhole =>
        cases number <;> simp_all [wholeOf, Binary64.truncate?]
      | numeral hwhole => simp [wholeOf, hwhole]
      | bytes hwhole => simp [wholeOf, hwhole]

theorem Spells.unique {value : Value} {left right : Int} (hleft : Spells value left)
    (hright : Spells value right) : left = right := by
  rw [← wholeOf_eq_ok_iff] at hleft hright
  exact Except.ok.inj (hleft.symm.trans hright)

theorem wholeOf_eq_outOfRange_iff (value : Value) :
    wholeOf value = .error .outOfRange ↔ ∃ negative, value = .float (.infinite negative) := by
  constructor
  · intro hrange
    cases value with
    | float number =>
      cases number with
      | infinite negative => exact ⟨negative, rfl⟩
      | nan => simp [wholeOf] at hrange
      | finite negative significand exponent => simp [wholeOf] at hrange
    | text content => cases hread : plainInteger? content <;> simp [wholeOf, hread] at hrange
    | bytes content =>
      cases hread : plainIntegerOfBytes? content <;> simp [wholeOf, hread] at hrange
    | _ => simp [wholeOf] at hrange
  · rintro ⟨negative, rfl⟩
    rfl

/-- The report of a code that descriptors lack. -/
def report {α : Type} (field : String) (code : Value) : Logged α :=
  (.error (.fault (.integrityViolation (.text field) code)),
    [{ severity := .error, source, message := unrecognised field code.literal }])

/-- Why a code that descriptors lack cannot be reported. -/
inductive Unreportable : Value → Mishap → Prop
  | infinite (negative : Bool) : Unreportable (.float (.infinite negative)) .outOfRange
  | overlong {code : Value} (hcode : code.isWritable = false) : Unreportable code .wrongValue

/-- The outcomes for a code that descriptors lack. -/
inductive Refused {α : Type} (field : String) (code : Value) : Logged α → Prop
  | reported (hreportable : ∀ mishap, ¬ Unreportable code mishap) :
      Refused field code (report field code)
  | broken {mishap : Mishap} (hunreportable : Unreportable code mishap) :
      Refused field code (.error (.mishap mishap), [])

theorem refused_refuse {α : Type} (field : String) {code : Value}
    (hfinite : ∀ negative, code ≠ .float (.infinite negative)) :
    Refused field code (refuse field code : Logged α) := by
  unfold refuse Value.written
  cases hcode : code.isWritable with
  | false => exact .broken (.overlong hcode)
  | true =>
    have hraise : (violation field code (unrecognised field code.literal) : Logged α) =
        report field code := by
      simp [violation, report, Failure.raise, Fault.message, Value.written, hcode,
        bind, Except.bind, pure, Except.pure]
    simp only [if_true, hraise]
    refine .reported fun mishap hunreportable => ?_
    cases hunreportable with
    | infinite negative => exact hfinite negative rfl
    | overlong hwritable => simp [hcode] at hwritable

section Field

variable {α : Type} {field : String} {ofCode? : Int → Option α} {codeOf : α → Nat}
variable {code : Value}

theorem fromDocument_of_spells
    (hcodes : ∀ whole found, ofCode? whole = some found ↔ whole = codeOf found)
    {found : α} (hcode : Spells code (codeOf found)) :
    fromDocument field ofCode? code = (.ok found, []) := by
  have hwhole : wholeOf code = .ok (codeOf found) := (wholeOf_eq_ok_iff code _).mpr hcode
  have hfound : ofCode? (codeOf found) = some found := (hcodes _ found).mpr rfl
  simp only [fromDocument, hwhole, hfound]

theorem refused_fromDocument
    (hcodes : ∀ whole found, ofCode? whole = some found ↔ whole = codeOf found)
    (hadrift : ∀ found, ¬ Spells code (codeOf found)) :
    Refused field code (fromDocument field ofCode? code) := by
  unfold fromDocument
  split
  case h_1 hrange =>
    obtain ⟨negative, rfl⟩ := (wholeOf_eq_outOfRange_iff code).mp hrange
    exact .broken (.infinite negative)
  case h_2 mishap hmishap hwhole =>
    refine refused_refuse field fun negative hcode => ?_
    rw [(wholeOf_eq_outOfRange_iff code).mpr ⟨negative, hcode⟩, Except.error.injEq] at hwhole
    exact hmishap hwhole.symm
  case h_3 whole hwhole =>
    split
    case h_1 found hfound =>
      rw [(hcodes whole found).mp hfound, wholeOf_eq_ok_iff] at hwhole
      exact absurd hwhole (hadrift found)
    case h_2 =>
      refine refused_refuse field fun negative hcode => ?_
      rw [(wholeOf_eq_outOfRange_iff code).mpr ⟨negative, hcode⟩] at hwhole
      cases hwhole

end Field

theorem Refused.andThen {α β : Type} {field : String} {code : Value} {outcome : Logged α}
    (hrefused : Refused field code outcome) (next : α → Logged β) :
    Refused field code (andThen outcome next) := by
  -- the first step has failed, so the second adds no record
  cases hrefused with
  | reported hreportable => exact .reported hreportable
  | broken hunreportable => exact .broken hunreportable

/-- A font that comes to the family and the codes of a descriptor. -/
structure Matches (font : Document.RawFont) (descriptor : Descriptor) : Prop where
  family : descriptor.family = font.family
  weight : Spells font.weight descriptor.weight.code
  style : Spells font.style descriptor.style.code

/-- The first field of a font that comes to no code, with its value. -/
inductive Adrift (font : Document.RawFont) : String → Value → Prop
  | weight (hweight : ∀ weight : Weight, ¬ Spells font.weight weight.code) :
      Adrift font "weight" font.weight
  | style {weight : Weight} (hweight : Spells font.weight weight.code)
      (hstyle : ∀ style : Style, ¬ Spells font.style style.code) :
      Adrift font "style" font.style

/-- The outcomes of converting a font. -/
inductive Converted (font : Document.RawFont) : Logged Descriptor → Prop
  | found {descriptor : Descriptor} (hmatches : Matches font descriptor) :
      Converted font (.ok descriptor, [])
  | refused {field : String} {code : Value} {outcome : Logged Descriptor}
      (hadrift : Adrift font field code) (hrefused : Refused field code outcome) :
      Converted font outcome

/-- The style is looked at only where the weight is a code. -/
theorem converted_ofDocument (font : Document.RawFont) : Converted font (ofDocument font) := by
  by_cases hweight : ∃ weight : Weight, Spells font.weight weight.code
  · obtain ⟨weight, hweight⟩ := hweight
    have hfound : weightFromDocument font.weight = (.ok weight, []) :=
      fromDocument_of_spells Weight.ofCode?_eq_some_iff hweight
    have hnext : ofDocument font = andThen (styleFromDocument font.style) fun style =>
        (.ok { family := font.family, weight, style }, []) := by
      simp only [ofDocument, andThen, hfound, List.nil_append]
    rw [hnext]
    by_cases hstyle : ∃ style : Style, Spells font.style style.code
    · obtain ⟨style, hstyle⟩ := hstyle
      have hfound : styleFromDocument font.style = (.ok style, []) :=
        fromDocument_of_spells Style.ofCode?_eq_some_iff hstyle
      rw [hfound]
      exact .found ⟨rfl, hweight, hstyle⟩
    · have hrefused : Refused "style" font.style (styleFromDocument font.style) :=
        refused_fromDocument Style.ofCode?_eq_some_iff (not_exists.mp hstyle)
      exact .refused (.style hweight (not_exists.mp hstyle)) (hrefused.andThen _)
  · have hrefused : Refused "weight" font.weight (weightFromDocument font.weight) :=
      refused_fromDocument Weight.ofCode?_eq_some_iff (not_exists.mp hweight)
    exact .refused (.weight (not_exists.mp hweight)) (hrefused.andThen _)

variable {font : Document.RawFont} {field : String} {code : Value}

theorem Matches.not_adrift {descriptor : Descriptor} (hmatches : Matches font descriptor) :
    ¬ Adrift font field code := by
  intro hadrift
  cases hadrift with
  | weight hweight => exact hweight _ hmatches.weight
  | style _ hstyle => exact hstyle _ hmatches.style

theorem Adrift.unique {otherField : String} {otherCode : Value} (hadrift : Adrift font field code)
    (hother : Adrift font otherField otherCode) : field = otherField ∧ code = otherCode := by
  cases hadrift with
  | weight hweight =>
    cases hother with
    | weight _ => exact ⟨rfl, rfl⟩
    | style hspells _ => exact absurd hspells (hweight _)
  | style hspells _ =>
    cases hother with
    | weight hweight => exact absurd hspells (hweight _)
    | style _ _ => exact ⟨rfl, rfl⟩

theorem Unreportable.unique {mishap other : Mishap} (hunreportable : Unreportable code mishap)
    (hother : Unreportable code other) : mishap = other := by
  cases hunreportable with
  | infinite negative =>
    cases hother with
    | infinite _ => rfl
    | overlong hcode => simp [Value.isWritable] at hcode
  | overlong hcode =>
    cases hother with
    | infinite negative => simp [Value.isWritable] at hcode
    | overlong _ => rfl

theorem Matches.unique {descriptor other : Descriptor} (hmatches : Matches font descriptor)
    (hother : Matches font other) : descriptor = other := by
  have hfamily : descriptor.family = other.family := hmatches.family.trans hother.family.symm
  have hweight : descriptor.weight = other.weight :=
    Weight.eq_of_code_eq (hmatches.weight.unique hother.weight)
  have hstyle : descriptor.style = other.style :=
    Style.eq_of_code_eq (hmatches.style.unique hother.style)
  cases descriptor
  cases other
  simp_all

theorem Refused.unique {left right : Logged Descriptor} (hleft : Refused field code left)
    (hright : Refused field code right) : left = right := by
  cases hleft with
  | reported hreportable =>
    cases hright with
    | reported _ => rfl
    | broken hunreportable => exact absurd hunreportable (hreportable _)
  | broken hunreportable =>
    cases hright with
    | reported hreportable => exact absurd hunreportable (hreportable _)
    | broken hother => rw [hunreportable.unique hother]

theorem Converted.unique {left right : Logged Descriptor} (hleft : Converted font left)
    (hright : Converted font right) : left = right := by
  cases hleft with
  | found hmatches =>
    cases hright with
    | found hother => rw [hmatches.unique hother]
    | refused hadrift _ => exact absurd hadrift hmatches.not_adrift
  | refused hadrift hrefused =>
    cases hright with
    | found hmatches => exact absurd hadrift hmatches.not_adrift
    | refused hother hrefusedOther =>
      obtain ⟨rfl, rfl⟩ := hadrift.unique hother
      exact hrefused.unique hrefusedOther

theorem ofDocument_eq_iff (font : Document.RawFont) (outcome : Logged Descriptor) :
    ofDocument font = outcome ↔ Converted font outcome := by
  constructor
  · rintro rfl
    exact converted_ofDocument font
  · exact (converted_ofDocument font).unique

theorem ofDocument_eq_ok_iff (font : Document.RawFont) (descriptor : Descriptor) :
    (ofDocument font).1 = .ok descriptor ↔ Matches font descriptor := by
  constructor
  · intro hok
    have hconverted := converted_ofDocument font
    generalize ofDocument font = outcome at hok hconverted
    cases hconverted with
    | found hmatches => exact Except.ok.inj hok ▸ hmatches
    | refused _ hrefused => cases hrefused <;> cases hok
  · intro hmatches
    rw [(ofDocument_eq_iff font _).mpr (.found hmatches)]

theorem ofDocument_eq_violation_iff (font : Document.RawFont) (field : String) (code : Value) :
    (ofDocument font).1 = .error (.fault (.integrityViolation (.text field) code)) ↔
      Adrift font field code ∧ ∀ mishap, ¬ Unreportable code mishap := by
  constructor
  · intro hviolation
    have hconverted := converted_ofDocument font
    generalize ofDocument font = outcome at hviolation hconverted
    cases hconverted with
    | found _ => cases hviolation
    | refused hadrift hrefused =>
      cases hrefused with
      | reported hreportable =>
        cases hviolation
        exact ⟨hadrift, hreportable⟩
      | broken _ => cases hviolation
  · rintro ⟨hadrift, hreportable⟩
    rw [(ofDocument_eq_iff font _).mpr (.refused hadrift (.reported hreportable))]
    rfl

/-- A checked font converts to the descriptor of its own codes. -/
theorem ofDocument_raw {font : Document.Font} {descriptor : Descriptor}
    (hfamily : descriptor.family = font.family.value)
    (hweight : font.weight.code = descriptor.weight.code)
    (hstyle : font.style.code = descriptor.style.code) :
    ofDocument font.raw = (.ok descriptor, []) := by
  have hweightCode : font.raw.weight.integer? = some (descriptor.weight.code : Int) :=
    congrArg (fun code : Nat => some (code : Int)) hweight
  have hstyleCode : font.raw.style.integer? = some (descriptor.style.code : Int) :=
    congrArg (fun code : Nat => some (code : Int)) hstyle
  rw [ofDocument_eq_iff]
  exact .found ⟨hfamily, .inl hweightCode, .inl hstyleCode⟩

/-- What converting a font should come to: its descriptor without a record, or a violation of
integrity in its first field adrift after one record. -/
inductive Accounted (font : Document.RawFont) : Logged Descriptor → Prop
  | found {descriptor : Descriptor} (hmatches : Matches font descriptor) :
      Accounted font (.ok descriptor, [])
  | reported {field : String} {code : Value} (hadrift : Adrift font field code) :
      Accounted font (report field code)

/-- A conversion is accounted for unless its first field adrift holds an infinity or a value that
cannot be written.  It then ends in a mishap, without a record. -/
theorem ofDocument_accounted_iff (font : Document.RawFont) :
    (Accounted font (ofDocument font) ↔
      ∀ field code mishap, Adrift font field code → ¬ Unreportable code mishap) ∧
    ∀ mishap log, ofDocument font = (.error (.mishap mishap), log) ↔
      log = [] ∧ ∃ field code, Adrift font field code ∧ Unreportable code mishap := by
  refine ⟨⟨?_, ?_⟩, fun mishap log => ⟨?_, ?_⟩⟩
  · intro haccounted field code mishap hadrift hunreportable
    rw [(ofDocument_eq_iff font _).mpr (.refused hadrift (.broken hunreportable))] at haccounted
    cases haccounted
  · intro hreportable
    have hconverted := converted_ofDocument font
    generalize ofDocument font = outcome at hconverted
    cases hconverted with
    | found hmatches => exact .found hmatches
    | refused hadrift hrefused =>
      cases hrefused with
      | reported _ => exact .reported hadrift
      | broken hunreportable => exact absurd hunreportable (hreportable _ _ _ hadrift)
  · intro hmishap
    cases (ofDocument_eq_iff font _).mp hmishap with
    | refused hadrift hrefused =>
      cases hrefused with
      | broken hunreportable => exact ⟨rfl, _, _, hadrift, hunreportable⟩
  · rintro ⟨rfl, field, code, hadrift, hunreportable⟩
    exact (ofDocument_eq_iff font _).mpr (.refused hadrift (.broken hunreportable))

namespace Sample

def infinite : Document.RawFont where
  family := .text "A"
  weight := .float (.infinite false)
  style := .int 0
  cachedFace := .null

/-- A weight half a unit above that of a regular font. -/
def fractional : Document.RawFont where
  family := .text "A"
  weight := .float (.ofRatio false 801 2)
  style := .int 0
  cachedFace := .null

end Sample

theorem ofDocument_accounted_infinite :
    ofDocument Sample.infinite = (.error (.mishap .outOfRange), []) ∧
      ¬ Accounted Sample.infinite (ofDocument Sample.infinite) := by
  have hmishap : ofDocument Sample.infinite = (.error (.mishap .outOfRange), []) := rfl
  refine ⟨hmishap, fun haccounted => ?_⟩
  rw [hmishap] at haccounted
  cases haccounted

/-- A font converts if its weight and its style are codes or loosely come to codes, and they are
codes where neither is loose.  Every other font is reported as a violation of integrity, save for a
field adrift that cannot be reported. -/
theorem ofDocument_recognises (font : Document.RawFont) :
    (∀ descriptor, (ofDocument font).1 = .ok descriptor ↔
      descriptor.family = font.family ∧ Spells font.weight descriptor.weight.code ∧
        Spells font.style descriptor.style.code) ∧
    (∀ descriptor, (ofDocument font).1 = .ok descriptor ∧
        ¬ (Loose font.weight descriptor.weight.code ∨ Loose font.style descriptor.style.code) ↔
      descriptor.family = font.family ∧
        font.weight.integer? = some (descriptor.weight.code : Int) ∧
        font.style.integer? = some (descriptor.style.code : Int)) ∧
    ∀ field code, (ofDocument font).1 = .error (.fault (.integrityViolation (.text field) code)) ↔
      Adrift font field code ∧ ∀ mishap, ¬ Unreportable code mishap := by
  refine ⟨fun descriptor => ?_, fun descriptor => ?_, ofDocument_eq_violation_iff font⟩
  · rw [ofDocument_eq_ok_iff]
    exact ⟨fun ⟨hfamily, hweight, hstyle⟩ => ⟨hfamily, hweight, hstyle⟩,
      fun ⟨hfamily, hweight, hstyle⟩ => ⟨hfamily, hweight, hstyle⟩⟩
  · rw [ofDocument_eq_ok_iff]
    constructor
    · rintro ⟨⟨hfamily, hweight, hstyle⟩, hloose⟩
      rw [not_or] at hloose
      exact ⟨hfamily, hweight.resolve_right hloose.1, hstyle.resolve_right hloose.2⟩
    · rintro ⟨hfamily, hweight, hstyle⟩
      refine ⟨⟨hfamily, .inl hweight, .inl hstyle⟩, ?_⟩
      rintro (hloose | hloose)
      · simp [hloose.integer?_eq_none] at hweight
      · simp [hloose.integer?_eq_none] at hstyle

theorem ofDocument_recognises_fractional :
    (ofDocument Sample.fractional).1 =
        .ok { family := .text "A", weight := .regular, style := .normal } ∧
      Sample.fractional.weight.integer? = none :=
  ⟨rfl, rfl⟩

end Typeface.Conversion
