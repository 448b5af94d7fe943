import Mathlib
import Typeface.Proofs.Checked
import Typeface.Release

/-!
# Releases in normal form

The fields of a release under their names are accepted as the same release
exactly if it is sound: numbers identify it and its assets, and no asset has a
negative size.  A release that is accepted from mappings, in whatever spelling,
is sound unless a vocabulary stands for a number; records at hand are taken
unchecked and must be sound themselves.  Entries under other keys count for
nothing: they may be added, removed and changed, in the release and in any of
its assets, and what comes of the value stays the same, down to the complaints
about it.
-/

namespace Typeface

def Identifier.IsNumber (known : Identifier) : Prop :=
  ∃ number, known = .number number

/-- Entries of a mapping under keys that name no field. -/
def Value.NameNone (names : List String) (entries : List (Value × Value)) : Prop :=
  ∀ entry ∈ entries, ∀ name ∈ names, entry.1 ≠ .text name

/-- Two mappings that are the same but for some entries under keys that name no field. -/
inductive Value.Edited (names : List String) : Value → Value → Prop
  | entries {front back old new : List (Value × Value)} (hold : NameNone names old)
      (hnew : NameNone names new) :
      Edited names (.dict (front ++ old ++ back)) (.dict (front ++ new ++ back))

namespace Value

variable {names : List String} {name : String}

theorem nameNone_nil (names : List String) : NameNone names [] := nofun

theorem fields_append (front back : List (Value × Value)) :
    fields (front ++ back) = fields front ++ fields back :=
  List.filterMap_append

theorem lookup_fields_eq_none {entries : List (Value × Value)} (hentries : NameNone names entries)
    (hname : name ∈ names) : (fields entries).lookup name = none := by
  rw [List.lookup_eq_none_iff]
  intro field hfield
  obtain ⟨entry, hentry, hkey⟩ := List.mem_filterMap.mp hfield
  have hother : entry.1 ≠ .text name := hentries entry hentry name hname
  split at hkey
  · next key hentryKey =>
    cases hkey
    rw [bne_iff_ne]
    rintro rfl
    exact hother hentryKey
  · cases hkey

theorem lookup_fields_edited {front back old new : List (Value × Value)}
    (hold : NameNone names old) (hnew : NameNone names new) (hname : name ∈ names) :
    (fields (front ++ old ++ back)).lookup name = (fields (front ++ new ++ back)).lookup name := by
  simp only [fields_append, List.lookup_append, lookup_fields_eq_none hold hname,
    lookup_fields_eq_none hnew hname]

/-- The fields of a mapping of fields are these fields. -/
theorem fields_toValue (given : Fields) :
    ∃ entries, given.toValue = .dict entries ∧ fields entries = given := by
  refine ⟨given.map fun entry => (.text entry.1, entry.2), rfl, ?_⟩
  induction given with
  | nil => rfl
  | cons entry rest ih =>
    calc
      fields ((entry :: rest).map fun entry => (.text entry.1, entry.2))
          = entry :: fields (rest.map fun entry => (.text entry.1, entry.2)) := rfl
      _ = entry :: rest := by rw [ih]

end Value

namespace Coercion

variable {value : Value}

/-- A number is kept as an identifier of its own value, and no title is. -/
theorem identifier_value_iff {known : Identifier} :
    identifier known.value = .ok known ↔ known.IsNumber := by
  cases known with
  | number number => exact iff_of_true rfl ⟨number, rfl⟩
  | title vocabulary =>
    refine iff_of_false ?_ nofun
    rw [Identifier.value, identifier]
    · cases integer (.text vocabulary.title) <;> simp [Except.map]
    · exact nofun

/-- Only a vocabulary gives an identifier that is no number. -/
theorem isNumber_iff_of_identifier {known : Identifier} (hspelled : identifier value = .ok known) :
    known.IsNumber ↔ ∀ vocabulary, value ≠ .vocabulary vocabulary := by
  cases value with
  | vocabulary vocabulary =>
    cases hspelled
    exact iff_of_false nofun fun hother => hother vocabulary rfl
  | _ =>
    rw [identifier] at hspelled
    · obtain ⟨number, _, rfl⟩ := map_eq_ok_iff.mp hspelled
      exact iff_of_true ⟨number, rfl⟩ nofun
    · exact nofun

theorem isNumber_iff_of_required {fields : Fields} {name : String} {known : Identifier}
    (hgiven : Checked.required fields name identifier = .ok known) :
    known.IsNumber ↔ ∀ vocabulary, fields.lookup name ≠ some (.vocabulary vocabulary) := by
  obtain ⟨value, hvalue, hspelled⟩ := Checked.required_eq_ok_iff.mp hgiven
  simp only [hvalue, ne_eq, Option.some.injEq]
  exact isNumber_iff_of_identifier hspelled

end Coercion

namespace Asset

variable {fields : Fields} {asset : Asset} {value : Value}

/-- A number identifies the asset, and its size is not negative. -/
structure Sound (asset : Asset) : Prop where
  id : asset.id.IsNumber
  size : 0 ≤ asset.size

/-- What is taken unchecked is sound: a record at hand, or the identifier of a mapping. -/
def Vouched : Value → Prop
  | .asset known => known.Sound
  | .dict entries =>
    ∀ vocabulary, (Value.fields entries).lookup "id" ≠ some (.vocabulary vocabulary)
  | _ => True

def fieldNames : List String :=
  ["id", "url", "name", "label", "content_type", "size"]

theorem ofFields_eq_ok_iff :
    ofFields fields = .ok asset ↔
      Checked.required fields "id" Coercion.identifier = .ok asset.id ∧
      Checked.required fields "url" Coercion.text = .ok asset.url ∧
      Checked.defaulted fields "name" (Coercion.optional Coercion.text) none = .ok asset.name ∧
      Checked.defaulted fields "label" (Coercion.optional Coercion.text) none = .ok asset.label ∧
      Checked.defaulted fields "content_type" Coercion.text "application/octet-stream" =
        .ok asset.contentType ∧
      Checked.defaulted fields "size" Coercion.natural 0 = .ok asset.size := by
  cases asset
  simp only [ofFields, Checked.also_eq_ok_iff, Except.ok.injEq, existsAndEq, mk.injEq, and_assoc,
    exists_and_left, exists_eq_left', and_true]

theorem ofFields_congr {others : Fields}
    (halike : ∀ name ∈ fieldNames, fields.lookup name = others.lookup name) :
    ofFields fields = ofFields others := by
  simp only [fieldNames, List.forall_mem_cons] at halike
  obtain ⟨hid, hurl, hname, hlabel, htype, hsize, _⟩ := halike
  simp only [ofFields, Checked.required, Checked.defaulted, hid, hurl, hname, hlabel, htype, hsize]

theorem ofValue_edited {left right : Value} (hedited : Value.Edited fieldNames left right) :
    ofValue left = ofValue right := by
  cases hedited with
  | entries hold hnew =>
    apply ofFields_congr
    intro name hname
    exact Value.lookup_fields_edited hold hnew hname

/-- Only a record at hand has a negative size. -/
theorem size_nonneg_or_known (haccepted : ofValue value = .ok asset) :
    0 ≤ asset.size ∨ value = .asset asset := by
  cases value with
  | asset known =>
    cases haccepted
    exact .inr rfl
  | dict entries =>
    obtain ⟨_, _, _, _, _, hsize⟩ := ofFields_eq_ok_iff.mp haccepted
    exact .inl
      (Checked.defaulted_satisfies (0 ≤ ·) hsize le_rfl fun _ _ => Coercion.natural_nonneg)
  | _ => cases haccepted

theorem sound_iff_vouched (haccepted : ofValue value = .ok asset) :
    asset.Sound ↔ Vouched value := by
  cases value with
  | asset known =>
    cases haccepted
    exact Iff.rfl
  | dict entries =>
    have hsize : 0 ≤ asset.size := (size_nonneg_or_known haccepted).resolve_right nofun
    obtain ⟨hid, _⟩ := ofFields_eq_ok_iff.mp haccepted
    rw [Vouched, ← Coercion.isNumber_iff_of_required hid]
    exact ⟨Sound.id, fun hnumber => ⟨hnumber, hsize⟩⟩
  | _ => cases haccepted

theorem ofValue_toFields_iff : ofValue asset.toFields.toValue = .ok asset ↔ asset.Sound := by
  obtain ⟨entries, hvalue, hfields⟩ := Value.fields_toValue asset.toFields
  have hread : ofValue asset.toFields.toValue = ofFields asset.toFields := by
    rw [hvalue, ofValue, hfields]
  rw [hread, ofFields_eq_ok_iff]
  constructor
  · rintro ⟨hid, _, _, _, _, hsize⟩
    exact ⟨Coercion.identifier_value_iff.mp (Checked.field_eq_ok_iff.mp hid),
      Coercion.natural_int_iff.mp (Checked.field_eq_ok_iff.mp hsize)⟩
  · rintro ⟨hid, hsize⟩
    exact ⟨Checked.field_eq_ok_iff.mpr (Coercion.identifier_value_iff.mpr hid),
      Checked.field_eq_ok_iff.mpr (Coercion.text_value asset.url),
      Checked.field_eq_ok_iff.mpr (Coercion.optional_text asset.name),
      Checked.field_eq_ok_iff.mpr (Coercion.optional_text asset.label),
      Checked.field_eq_ok_iff.mpr (Coercion.text_value asset.contentType),
      Checked.field_eq_ok_iff.mpr (Coercion.natural_int_iff.mpr hsize)⟩

end Asset

namespace Release

variable {fields : Fields} {release : Release} {value left right : Value}

/-- The names of the fields, but for the assets. -/
def plainNames : List String :=
  ["id", "url", "tag_name", "name", "body", "draft", "prerelease"]

def fieldNames : List String := "assets" :: plainNames

structure Sound (release : Release) : Prop where
  id : release.id.IsNumber
  assets : ∀ asset ∈ release.assets, asset.Sound

/-- The values that a listing of assets lists. -/
def listed : Value → List Value
  | .list items | .tuple items | .set items => items
  | _ => []

/-- What is taken unchecked is sound: a record at hand, or the identifier of a mapping, and so in
each asset that is listed. -/
def Vouched : Value → Prop
  | .release known => known.Sound
  | .dict entries =>
    (∀ vocabulary, (Value.fields entries).lookup "id" ≠ some (.vocabulary vocabulary)) ∧
      ∀ listing, (Value.fields entries).lookup "assets" = some listing →
        ∀ item ∈ listed listing, Asset.Vouched item
  | _ => True

/-- An asset that a value hands over as a record. -/
inductive Handed (asset : Asset) : Value → Prop
  | within {known : Release} (hasset : asset ∈ known.assets) : Handed asset (.release known)
  | listed {entries : List (Value × Value)} {listing : Value}
      (hlisting : (Value.fields entries).lookup "assets" = some listing)
      (hasset : .asset asset ∈ listed listing) : Handed asset (.dict entries)

/-- Two listings of assets that are the same but for some entries, of one asset, under keys that
name no field. -/
inductive ListingEdit : Value → Value → Prop
  | list {front back : List Value} {old new : Value}
      (hedit : Value.Edited Asset.fieldNames old new) :
      ListingEdit (.list (front ++ old :: back)) (.list (front ++ new :: back))
  | tuple {front back : List Value} {old new : Value}
      (hedit : Value.Edited Asset.fieldNames old new) :
      ListingEdit (.tuple (front ++ old :: back)) (.tuple (front ++ new :: back))
  | set {front back : List Value} {old new : Value}
      (hedit : Value.Edited Asset.fieldNames old new) :
      ListingEdit (.set (front ++ old :: back)) (.set (front ++ new :: back))

/-- Two values that are the same but for some entries under keys that name no field, of the release
or of one of its assets. -/
inductive Edit : Value → Value → Prop
  | release {left right : Value} (hedit : Value.Edited fieldNames left right) : Edit left right
  | asset {front back : List (Value × Value)} {old new : Value} (hedit : ListingEdit old new) :
      Edit (.dict (front ++ (.text "assets", old) :: back))
        (.dict (front ++ (.text "assets", new) :: back))

theorem ofFields_eq_ok_iff :
    ofFields fields = .ok release ↔
      Checked.required fields "id" Coercion.identifier = .ok release.id ∧
      Checked.required fields "url" Coercion.text = .ok release.url ∧
      Checked.required fields "tag_name" Coercion.text = .ok release.tag ∧
      Checked.defaulted fields "name" (Coercion.optional Coercion.text) none = .ok release.name ∧
      Checked.defaulted fields "body" (Coercion.optional Coercion.text) none = .ok release.body ∧
      Checked.defaulted fields "draft" Coercion.truth false = .ok release.draft ∧
      Checked.defaulted fields "prerelease" Coercion.truth false = .ok release.prerelease ∧
      assetsField fields = .ok release.assets := by
  cases release
  simp only [ofFields, Checked.also_eq_ok_iff, Except.ok.injEq, existsAndEq, mk.injEq, and_assoc,
    exists_and_left, exists_eq_left', and_true]

theorem ofFields_congr {others : Fields}
    (halike : ∀ name ∈ plainNames, fields.lookup name = others.lookup name)
    (hassets : assetsField fields = assetsField others) : ofFields fields = ofFields others := by
  simp only [plainNames, List.forall_mem_cons] at halike
  obtain ⟨hid, hurl, htag, hname, hbody, hdraft, hprerelease, _⟩ := halike
  simp only [ofFields, Checked.required, Checked.defaulted, hid, hurl, htag, hname, hbody, hdraft,
    hprerelease, hassets]

theorem assetsOf_edit (hedit : ListingEdit left right) : assetsOf left = assetsOf right := by
  cases hedit with
  | list hedit => exact Checked.items_congr (Asset.ofValue_edited hedit) 0
  | tuple hedit => exact Checked.items_congr (Asset.ofValue_edited hedit) 0
  | set hedit => exact Checked.items_congr (Asset.ofValue_edited hedit) 0

theorem lookup_fields_assets (front back : List (Value × Value)) (value : Value) (name : String) :
    (Value.fields (front ++ (.text "assets", value) :: back)).lookup name =
      ((Value.fields front).lookup name).or
        (if name = "assets" then some value else (Value.fields back).lookup name) := by
  have hfields : Value.fields (front ++ (.text "assets", value) :: back) =
      Value.fields front ++ ("assets", value) :: Value.fields back :=
    Value.fields_append front _
  rw [hfields, List.lookup_append, List.lookup_cons]
  by_cases hname : name = "assets"
  · simp [hname]
  · simp [hname, beq_eq_false_iff_ne.mpr hname]

/-- One edit changes neither acceptance nor the result, nor what is complained about. -/
theorem ofValue_edit (hedit : Edit left right) : ofValue left = ofValue right := by
  cases hedit with
  | release hedited =>
    cases hedited with
    | entries hold hnew =>
      apply ofFields_congr
      · intro name hname
        exact Value.lookup_fields_edited hold hnew (List.mem_cons_of_mem "assets" hname)
      · rw [assetsField, assetsField, Value.lookup_fields_edited hold hnew List.mem_cons_self]
  | @asset front back old new hedited =>
    apply ofFields_congr
    · intro name hname
      have hother : name ≠ "assets" := ne_of_mem_of_not_mem hname (by decide)
      rw [lookup_fields_assets, lookup_fields_assets, if_neg hother, if_neg hother]
    · rw [assetsField, assetsField, lookup_fields_assets, lookup_fields_assets, if_pos rfl,
        if_pos rfl]
      -- Of two entries for the assets only the first would count.
      cases (Value.fields front).lookup "assets" with
      | none => simp only [Option.none_or, assetsOf_edit hedited]
      | some first => rfl

theorem ofValue_edits (hedits : Relation.ReflTransGen Edit left right) :
    ofValue left = ofValue right := by
  induction hedits with
  | refl => rfl
  | tail _ hedit ih => rw [ih, ofValue_edit hedit]

theorem assetsField_eq_ok_iff {assets : List Asset} :
    assetsField fields = .ok assets ↔
      fields.lookup "assets" = none ∧ assets = [] ∨
        ∃ value, fields.lookup "assets" = some value ∧ assetsOf value = .ok assets := by
  cases hgiven : fields.lookup "assets" with
  | none => simp [assetsField, hgiven, eq_comm]
  | some value => cases hvalue : assetsOf value <;> simp [assetsField, hgiven, hvalue]

theorem items_of_assetsOf {assets : List Asset} (hassets : assetsOf value = .ok assets) :
    Checked.items Asset.ofValue 0 (listed value) = .ok assets := by
  cases value with
  | list items => exact hassets
  | tuple items => exact hassets
  | set items => exact hassets
  | _ => cases hassets

theorem sound_iff_vouched (haccepted : ofValue value = .ok release) :
    release.Sound ↔ Vouched value := by
  cases value with
  | release known =>
    cases haccepted
    exact Iff.rfl
  | dict entries =>
    obtain ⟨hid, _, _, _, _, _, _, hassets⟩ := ofFields_eq_ok_iff.mp haccepted
    have hlisted : (∀ asset ∈ release.assets, asset.Sound) ↔
        ∀ listing, (Value.fields entries).lookup "assets" = some listing →
          ∀ item ∈ listed listing, Asset.Vouched item := by
      rcases assetsField_eq_ok_iff.mp hassets with ⟨hmissing, hnone⟩ | ⟨listing, hgiven, hlisting⟩
      · simp [hmissing, hnone]
      · rw [Checked.forall_mem_items_iff (items_of_assetsOf hlisting)
          fun item asset => Asset.sound_iff_vouched]
        simp [hgiven]
    rw [Vouched, ← hlisted, ← Coercion.isNumber_iff_of_required hid]
    exact ⟨fun hsound => ⟨hsound.id, hsound.assets⟩, fun hboth => ⟨hboth.1, hboth.2⟩⟩
  | _ => cases haccepted

theorem size_nonneg_or_handed (haccepted : ofValue value = .ok release) :
    ∀ asset ∈ release.assets, 0 ≤ asset.size ∨ Handed asset value := by
  intro asset hasset
  cases value with
  | release known =>
    cases haccepted
    exact .inr (.within hasset)
  | dict entries =>
    obtain ⟨_, _, _, _, _, _, _, hassets⟩ := ofFields_eq_ok_iff.mp haccepted
    rcases assetsField_eq_ok_iff.mp hassets with ⟨_, hnone⟩ | ⟨listing, hgiven, hlisting⟩
    · rw [hnone] at hasset
      cases hasset
    · have hpairs := (Checked.items_eq_ok_iff 0).mp (items_of_assetsOf hlisting)
      have hresult : .ok asset ∈ (listed listing).map Asset.ofValue :=
        hpairs ▸ List.mem_map_of_mem hasset
      obtain ⟨item, hitem, hcheck⟩ := List.mem_map.mp hresult
      rcases Asset.size_nonneg_or_known hcheck with hsize | rfl
      · exact .inl hsize
      · exact .inr (.listed hgiven hitem)
  | _ => cases haccepted

theorem assetsField_toFields_iff :
    assetsField release.toFields = .ok release.assets ↔ ∀ asset ∈ release.assets, asset.Sound := by
  have hlookup : release.toFields.lookup "assets" =
      some (.list (release.assets.map fun asset => asset.toFields.toValue)) := rfl
  simp only [assetsField_eq_ok_iff, hlookup, assetsOf, reduceCtorEq, false_and, false_or,
    Option.some.injEq, exists_eq_left']
  rw [Checked.items_eq_ok_iff, List.map_map, List.map_inj_left]
  exact forall₂_congr fun asset _ => Asset.ofValue_toFields_iff

/-- The fields of a release are accepted as the release exactly if it is sound. -/
theorem ofValue_toFields_iff :
    ofValue release.toFields.toValue = .ok release ↔ release.Sound := by
  obtain ⟨entries, hvalue, hfields⟩ := Value.fields_toValue release.toFields
  have hread : ofValue release.toFields.toValue = ofFields release.toFields := by
    rw [hvalue, ofValue, hfields]
  rw [hread, ofFields_eq_ok_iff, assetsField_toFields_iff]
  constructor
  · rintro ⟨hid, _, _, _, _, _, _, hassets⟩
    exact ⟨Coercion.identifier_value_iff.mp (Checked.field_eq_ok_iff.mp hid), hassets⟩
  · rintro ⟨hid, hassets⟩
    exact ⟨Checked.field_eq_ok_iff.mpr (Coercion.identifier_value_iff.mpr hid),
      Checked.field_eq_ok_iff.mpr (Coercion.text_value release.url),
      Checked.field_eq_ok_iff.mpr (Coercion.text_value release.tag),
      Checked.field_eq_ok_iff.mpr (Coercion.optional_text release.name),
      Checked.field_eq_ok_iff.mpr (Coercion.optional_text release.body), rfl, rfl, hassets⟩

namespace Sample

/-- An asset with some entries more. -/
def asset (entries : List (Value × Value)) : Value :=
  .dict (entries ++ [(.text "id", .bool true), (.text "url", .text ""),
    (.text "size", .text "10.0")])

def plainEntries : List (Value × Value) :=
  [(.text "id", .text "007"), (.text "url", .bytes [0x75]), (.text "tag_name", .text "v1"),
    (.text "draft", .text "oFF")]

/-- A payload with some entries more, in itself and in its asset. -/
def payload (entries inAsset : List (Value × Value)) : Value :=
  .dict (entries ++ (plainEntries ++ [(.text "assets", .tuple [asset inAsset])]))

/-- What the payload is accepted as. -/
def normal : Release :=
  { id := .number 7, url := "u", tag := "v1", name := none, body := none, draft := false
    prerelease := false
    assets := [{ id := .number 1, url := "", name := none, label := none
                 contentType := "application/octet-stream", size := 10 }] }

theorem ofValue_payload : ofValue (payload [] []) = .ok normal := rfl

theorem sound_normal : normal.Sound := by
  constructor
  · exact ⟨7, rfl⟩
  · intro asset hasset
    obtain rfl := List.mem_singleton.mp hasset
    exact ⟨⟨1, rfl⟩, by decide⟩

/-- Entries that name no field of a release, nor of an asset. -/
def unknown : List (Value × Value) :=
  [(.text "Id", .null), (.int 1, .list []), (.text "node_id", .text "MDc6")]

/-- An asset at hand that no check has seen. -/
def unchecked : Asset :=
  { id := .number 1, url := "", name := none, label := none
    contentType := "application/octet-stream", size := -5 }

/-- A release of an identifier and assets. -/
def bare (id : Value) (assets : List Value) : Value :=
  .dict [(.text "id", id), (.text "url", .text ""), (.text "tag_name", .text ""),
    (.text "assets", .list assets)]

end Sample

end Release

end Typeface
