import Mathlib
import Typeface.Proofs.Catalog
import Typeface.Proofs.Descriptor.Guard

/-!
# Legacy names

A text asks for itself, and an item of the legacy vocabulary asks for the name
in it; any other value is of the wrong vocabulary.  The name that is asked for
resolves by the row that has it letter for letter.  No two rows have names that
differ in case or blanks alone, so that a name with the letters of a row in
another case, or with other blanks, is never found.
-/

namespace Typeface

open Value

/-- The legacy vocabulary, in which any text may be a name. -/
def Scale.legacyFonts : Scale String where
  vocabulary := .legacyFont
  embed := .text
  name := id

namespace Catalog

variable {entry : Entry} {name : Value}

/-! ## The rows of the table -/

/-- A row that maps a text to a built-in family, or reserves it. -/
inductive Standard : Entry → Prop
  | builtIn (name family : String) (weight : Weight) (style : Style) :
      Standard (builtIn name family weight style)
  | reserved (name : String) : Standard (reserved name)

theorem standard_legacyEntries : ∀ entry ∈ legacyEntries, Standard entry := by
  simp [legacyEntries, Standard.builtIn, Standard.reserved]

theorem Standard.wellTyped (hstandard : Standard entry) : entry.WellTyped := by
  cases hstandard with
  | builtIn name family weight style =>
    refine ⟨.text name, fun mapping hmapping => ?_⟩
    cases hmapping
    exact ⟨{ family := .text (familyLocator family), weight, style }, rfl, rfl, rfl⟩
  | reserved name => exact ⟨.text name, nofun⟩

theorem Standard.family {descriptor : Descriptor} {mapping : Mapping} (hstandard : Standard entry)
    (hmapping : entry.mapping = some mapping) (hdescribes : mapping.Describes descriptor) :
    ∃ family, descriptor.family = .text family := by
  rw [← hdescribes.family]
  cases hstandard with
  | builtIn =>
    cases hmapping
    exact ⟨_, rfl⟩
  | reserved => cases hmapping

theorem wellTyped_legacyEntries (entry : Entry) (hentry : entry ∈ legacyEntries) :
    entry.WellTyped :=
  (standard_legacyEntries entry hentry).wellTyped

/-- The letters of a text in capitals and without blanks. -/
def loose (content : String) : List Char :=
  (content.toList.filter fun letter => !Text.isSpacing letter).map fun letter =>
    Text.raiseLetter (Text.foldLetter letter)

/-- The loose form of a name that is a text. -/
def looseName : Value → List Char
  | .text content => loose content
  | _ => []

theorem nodup_looseNames : ((legacyEntries.map Entry.name).map looseName).Nodup := by
  -- The table is closed, so that the kernel can compare its names with each other.
  decide +kernel

theorem nodup_legacyNames : (legacyEntries.map Entry.name).Nodup :=
  nodup_looseNames.of_map looseName

/-- A text with the letters of a name is in the table only if it is that name. -/
theorem eq_of_loose_eq {content known : String} (hcontent : .text content ∈ legacy.names)
    (hknown : .text known ∈ legacy.names) (hloose : loose content = loose known) :
    content = known := by
  have hsame : Value.text content = .text known :=
    List.inj_on_of_nodup_map nodup_looseNames hcontent hknown hloose
  exact Value.text.inj hsame

theorem mem_names_of_maps {descriptor : Descriptor} (hmaps : Maps legacyEntries name descriptor) :
    name ∈ legacy.names := by
  obtain ⟨entry, hentry, rfl, _⟩ := hmaps
  exact List.mem_map_of_mem hentry

theorem Maps.isText {descriptor : Descriptor} (hmaps : Maps legacyEntries name descriptor) :
    IsText name := by
  obtain ⟨entry, hentry, rfl, _⟩ := hmaps
  exact (wellTyped_legacyEntries entry hentry).name

theorem Maps.family {descriptor : Descriptor} (hmaps : Maps legacyEntries name descriptor) :
    ∃ family, descriptor.family = .text family := by
  obtain ⟨entry, hentry, _, mapping, hmapping, hdescribes⟩ := hmaps
  exact (standard_legacyEntries entry hentry).family hmapping hdescribes

theorem legacy_resolve_of_maps {descriptor : Descriptor}
    (hmaps : Maps legacyEntries name descriptor) : legacy.resolve name = .ok descriptor :=
  resolve_of_maps wellTyped_legacyEntries nodup_legacyNames hmaps

theorem legacy_resolve_of_not_maps
    (hmissing : ∀ descriptor, ¬ Maps legacyEntries name descriptor) :
    legacy.resolve name = Failure.raise (.fontNotFound name (.text "Font")) :=
  resolve_of_not_maps wellTyped_legacyEntries nodup_legacyNames hmissing

end Catalog

namespace Descriptor

open Catalog Scale

variable {given name : Value} {descriptor : Descriptor}

/-- What a value asks for by a legacy name. -/
inductive AsksFor : Value → Value → Prop
  | text {name : Value} (hname : name.sort = "str") : AsksFor name name
  | item (name : Value) : AsksFor (legacyFonts.item name) name

/-- What should come of a value that is to be resolved. -/
inductive Answered (given : Value) : Except Failure Descriptor → Prop
  | found {name : Value} {descriptor : Descriptor} (hasks : AsksFor given name)
      (hmaps : Maps legacyEntries name descriptor) : Answered given (.ok descriptor)
  | missing {name : Value} (hasks : AsksFor given name)
      (hmissing : ∀ descriptor, ¬ Maps legacyEntries name descriptor) :
      Answered given (.error (.fault (.fontNotFound name (.text "Font"))))
  | foreign {actual : Value} (hforeign : ∀ name, ¬ AsksFor given name)
      (hactual : Called given actual) :
      Answered given (.error (.fault (.wrongVocabulary (.vocabulary .legacyFont) actual)))

/-! ## What is asked for -/

theorem legacyName_of_asksFor (hasks : AsksFor given name) : legacyName given = .ok name := by
  cases hasks with
  | text hname =>
    obtain ⟨content, rfl⟩ | ⟨codes, rfl⟩ := cases_of_sort hname
    · rfl
    · rfl
  | item name => rfl

theorem legacyName_of_foreign (hforeign : ∀ name, ¬ AsksFor given name) :
    legacyName given =
      Failure.raise (.wrongVocabulary (.vocabulary .legacyFont) (actualVocabulary given)) := by
  unfold legacyName
  split
  case h_1 content => exact absurd (.text rfl) (hforeign (.text content))
  case h_2 codes => exact absurd (.text rfl) (hforeign (.brokenText codes))
  case h_3 name => exact absurd (.item name) (hforeign name)
  case h_4 => rfl

theorem AsksFor.unique {other : Value} (hasks : AsksFor given name) (hother : AsksFor given other) :
    name = other := by
  have hname := legacyName_of_asksFor hasks
  rw [legacyName_of_asksFor hother] at hname
  exact (Except.ok.inj hname).symm

theorem ofLegacy_of_asksFor (hasks : AsksFor given name) :
    ofLegacy given = legacy.resolve name := by
  rw [ofLegacy, legacyName_of_asksFor hasks]
  rfl

theorem ofLegacy_of_foreign (hforeign : ∀ name, ¬ AsksFor given name) :
    ofLegacy given =
      Failure.raise (.wrongVocabulary (.vocabulary .legacyFont) (actualVocabulary given)) := by
  rw [ofLegacy, legacyName_of_foreign hforeign]
  unfold Failure.raise
  split <;> rfl

/-! ## One answer for each value -/

theorem answer_of_maps (hasks : AsksFor given name) (hmaps : Maps legacyEntries name descriptor)
    (outcome : Except Failure Descriptor) : Answered given outcome ↔ outcome = .ok descriptor := by
  constructor
  · intro hanswered
    cases hanswered with
    | found hother hfound =>
      cases hasks.unique hother
      have hresolve := legacy_resolve_of_maps hmaps
      rwa [legacy_resolve_of_maps hfound] at hresolve
    | missing hother hmissing =>
      cases hasks.unique hother
      exact absurd hmaps (hmissing descriptor)
    | foreign hforeign _ => exact absurd hasks (hforeign name)
  · rintro rfl
    exact .found hasks hmaps

theorem answer_of_not_maps (hasks : AsksFor given name)
    (hmissing : ∀ descriptor, ¬ Maps legacyEntries name descriptor)
    (outcome : Except Failure Descriptor) :
    Answered given outcome ↔
      outcome = .error (.fault (.fontNotFound name (.text "Font"))) := by
  constructor
  · intro hanswered
    cases hanswered with
    | found hother hfound =>
      cases hasks.unique hother
      exact absurd hfound (hmissing _)
    | missing hother _ => rw [hasks.unique hother]
    | foreign hforeign _ => exact absurd hasks (hforeign name)
  · rintro rfl
    exact .missing hasks hmissing

theorem answer_of_foreign (hforeign : ∀ name, ¬ AsksFor given name)
    (outcome : Except Failure Descriptor) :
    Answered given outcome ↔ outcome = .error (.fault
      (.wrongVocabulary (.vocabulary .legacyFont) (actualVocabulary given))) := by
  constructor
  · intro hanswered
    cases hanswered with
    | found hasks _ => exact absurd hasks (hforeign _)
    | missing hasks _ => exact absurd hasks (hforeign _)
    | foreign _ hactual => rw [hactual.unique (called_actualVocabulary given)]
  · rintro rfl
    exact .foreign hforeign (called_actualVocabulary given)

/-- A value is put into words as the name that it asks for. -/
theorem unspeakable_iff_of_asksFor (hasks : AsksFor given name) {reason : Unwritten} :
    legacyFonts.Unspeakable given reason ↔ name.display = .error reason := by
  cases hasks with
  | text hname =>
    -- A text is no item, and has a display whether it is broken or not.
    obtain ⟨content, rfl⟩ | ⟨codes, rfl⟩ := cases_of_sort hname
    · exact iff_of_false nofun nofun
    · exact iff_of_false nofun nofun
  | item name => exact unspeakable_item_iff

theorem keeps_of_maps (hasks : AsksFor given name) (hmaps : Maps legacyEntries name descriptor) :
    Failure.Keeps (Answered given) (legacyFonts.Unspeakable given) (.ok descriptor) := by
  apply Failure.keeps_ok (answer_of_maps hasks hmaps)
  intro reason
  obtain ⟨codes, rfl⟩ := hmaps.isText
  obtain ⟨shown, hshown⟩ := display_ofCodes codes
  rw [unspeakable_iff_of_asksFor hasks, hshown]
  nofun

theorem keeps_of_not_maps (hasks : AsksFor given name)
    (hmissing : ∀ descriptor, ¬ Maps legacyEntries name descriptor) :
    Failure.Keeps (Answered given) (legacyFonts.Unspeakable given)
      (Failure.raise (.fontNotFound name (.text "Font"))) := by
  apply Failure.keeps_raise (answer_of_not_maps hasks hmissing)
  intro reason
  rw [unspeakable_iff_of_asksFor hasks, message_fontNotFound_eq_error_iff]

theorem keeps_of_foreign (hforeign : ∀ name, ¬ AsksFor given name) :
    Failure.Keeps (Answered given) (legacyFonts.Unspeakable given)
      (Failure.raise (.wrongVocabulary (.vocabulary .legacyFont) (actualVocabulary given))) := by
  have hitem : ∀ name, given ≠ legacyFonts.item name := by
    rintro name rfl
    exact hforeign name (.item name)
  apply Failure.keeps_raise (answer_of_foreign hforeign)
  intro reason
  rw [unspeakable_foreign_iff hitem, message_wrongVocabulary_eq_error_iff]

theorem keeps_ofLegacy (given : Value) :
    Failure.Keeps (Answered given) (legacyFonts.Unspeakable given) (ofLegacy given) := by
  by_cases hforeign : ∀ name, ¬ AsksFor given name
  · rw [ofLegacy_of_foreign hforeign]
    exact keeps_of_foreign hforeign
  · push Not at hforeign
    obtain ⟨name, hasks⟩ := hforeign
    rw [ofLegacy_of_asksFor hasks]
    by_cases hmissing : ∀ descriptor, ¬ Maps legacyEntries name descriptor
    · rw [legacy_resolve_of_not_maps hmissing]
      exact keeps_of_not_maps hasks hmissing
    · push Not at hmissing
      obtain ⟨descriptor, hmaps⟩ := hmissing
      rw [legacy_resolve_of_maps hmaps]
      exact keeps_of_maps hasks hmaps

/-- Where the name that is asked for is a text, its refusal can be put into words. -/
theorem ofLegacy_of_not_maps (hasks : AsksFor given name) (hname : IsText name)
    (hmissing : ∀ descriptor, ¬ Maps legacyEntries name descriptor) :
    ofLegacy given = .error (.fault (.fontNotFound name (.text "Font"))) := by
  rw [ofLegacy_of_asksFor hasks, legacy_resolve_of_not_maps hmissing, raise_fontNotFound hname]

theorem ofLegacy_of_loose {content known : String} (hasks : AsksFor given (.text content))
    (hknown : .text known ∈ legacy.names) (hloose : loose content = loose known)
    (hother : content ≠ known) :
    ofLegacy given = .error (.fault (.fontNotFound (.text content) (.text "Font"))) := by
  apply ofLegacy_of_not_maps hasks (.text content)
  intro descriptor hmaps
  exact hother (eq_of_loose_eq (mem_names_of_maps hmaps) hknown hloose)

/-- The one reserved name is in the table and has no mapping. -/
theorem not_maps_unknown (descriptor : Descriptor) :
    ¬ Maps legacyEntries (.text "Unknown") descriptor := by
  rintro ⟨entry, hentry, hname, mapping, hmapping, _⟩
  have hreserved : reserved "Unknown" ∈ legacyEntries := by simp [legacyEntries]
  obtain rfl : entry = reserved "Unknown" :=
    List.inj_on_of_nodup_map nodup_legacyNames hentry hreserved hname
  cases hmapping

end Descriptor

end Typeface
