import Typeface.Checked

/-!
# Releases

Release lists give a release as a mapping.  They name more than its fields; the
rest is ignored.  A program may also hand over a record that it has at hand,
which is taken as it is.
-/

namespace Typeface

/-- An identifier as a value: a number, or the title that was kept. -/
def Identifier.value : Identifier → Value
  | number value => .int value
  | title vocabulary => .text vocabulary.title

namespace Asset

def ofFields (fields : Fields) : Checked Asset :=
  Checked.also (Checked.also (Checked.also (Checked.also (Checked.also (Checked.also (.ok Asset.mk)
    (Checked.required fields "id" Coercion.identifier))
    (Checked.required fields "url" Coercion.text))
    (Checked.defaulted fields "name" (Coercion.optional Coercion.text) none))
    (Checked.defaulted fields "label" (Coercion.optional Coercion.text) none))
    (Checked.defaulted fields "content_type" Coercion.text "application/octet-stream"))
    (Checked.defaulted fields "size" Coercion.natural 0)

/-- An asset from a mapping, or one that is at hand. -/
def ofValue : Value → Checked Asset
  | .asset known => .ok known
  | .dict entries => ofFields (Value.fields entries)
  | _ => .error [{ place := [], defect := .notRecord "ReleaseAsset" }]

/-- The fields of an asset by name. -/
def toFields (asset : Asset) : Fields :=
  [("id", asset.id.value), ("url", asset.url.value),
    ("name", .ofOption HostText.value asset.name), ("label", .ofOption HostText.value asset.label),
    ("content_type", asset.contentType.value), ("size", .int asset.size)]

end Asset

/-- Fields as a mapping. -/
def Fields.toValue (fields : Fields) : Value :=
  .dict (fields.map fun entry => (.text entry.1, entry.2))

namespace Release

/-- The assets of a release: a list, or what can be listed. -/
def assetsOf (value : Value) : Checked (List Asset) :=
  match value with
  | .list items | .tuple items | .set items => Checked.items Asset.ofValue 0 items
  | _ => .error [{ place := [], defect := .notList }]

/-- The field that holds the assets, which may be left out. -/
def assetsField (fields : Fields) : Checked (List Asset) :=
  match fields.lookup "assets" with
  | none => .ok []
  | some value =>
    match assetsOf value with
    | .ok assets => .ok assets
    | .error complaints => .error (Complaint.within (.field "assets") complaints)

def ofFields (fields : Fields) : Checked Release :=
  Checked.also (Checked.also (Checked.also (Checked.also (Checked.also (Checked.also (Checked.also
    (Checked.also (.ok Release.mk)
    (Checked.required fields "id" Coercion.identifier))
    (Checked.required fields "url" Coercion.text))
    (Checked.required fields "tag_name" Coercion.text))
    (Checked.defaulted fields "name" (Coercion.optional Coercion.text) none))
    (Checked.defaulted fields "body" (Coercion.optional Coercion.text) none))
    (Checked.defaulted fields "draft" Coercion.truth false))
    (Checked.defaulted fields "prerelease" Coercion.truth false))
    (assetsField fields)

/-- A release from a mapping, or one that is at hand. -/
def ofValue : Value → Checked Release
  | .release known => .ok known
  | .dict entries => ofFields (Value.fields entries)
  | _ => .error [{ place := [], defect := .notRecord "Release" }]

/-- The fields of a release by name. -/
def toFields (release : Release) : Fields :=
  [("id", release.id.value), ("url", release.url.value), ("tag_name", release.tag.value),
    ("name", .ofOption HostText.value release.name),
    ("body", .ofOption HostText.value release.body),
    ("draft", .bool release.draft), ("prerelease", .bool release.prerelease),
    ("assets", .list (release.assets.map fun asset => asset.toFields.toValue))]

/-- The first asset with a file name.  An asset without one is never found. -/
def asset? (release : Release) (name : Value) : Option Asset :=
  release.assets.find? fun asset => asset.name.any fun known => known.value.equal name

end Release

end Typeface
