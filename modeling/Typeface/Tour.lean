import Typeface.Catalog.Legacy
import Typeface.Conversion

/-!
# A tour of the library

A text that shows what the library does: it resolves legacy names, reads and
writes the fields of a descriptor, and converts a descriptor to a document and
back.
-/

namespace Typeface.Tour

def shown (value : Value) : String :=
  value.display?.getD ""

/-- A line for the message of a failure. -/
def refusalLine (failure : Failure) : String :=
  let message : HostText := (failure.fault?.bind Fault.message?).getD ""
  s!"❌ {message.reported}\n"

def resolutionLine (name : String) : String :=
  match Descriptor.ofLegacy (.text name) with
  | .ok descriptor =>
    s!"✅ {name}: {shown descriptor.value} (bold={shown (.bool descriptor.isBold)})\n"
  | .error failure => refusalLine failure

def legacyFonts : String :=
  let count := Number.decimal Catalog.legacy.mappedNames.length
  "=== Legacy Fonts ===\n" ++
    String.join (["SourceSansBold", "GothamBlack", "Unknown"].map resolutionLine) ++
    s!"   📚 {count} legacy names resolve\n"

/-- What writing a field leads to. -/
def outcomeLine (outcome : Except Failure Unit × Descriptor) (line : Descriptor → String) : String :=
  match outcome with
  | (.ok (), descriptor) => line descriptor
  | (.error failure, _) => refusalLine failure

def fieldAccess : String :=
  let title := "\n=== Field Access ===\n"
  match Descriptor.ofName (.text "Roboto") (.weight .semiBold) Descriptor.defaultStyle with
  | .error failure => title ++ refusalLine failure
  | .ok descriptor =>
    let item := shown (descriptor.get .weightItem)
    let bold := shown (descriptor.get .bold)
    let unbolded := descriptor.write .bold (.bool false)
    title ++ s!"   Weight: {item}, Bold: {bold}\n" ++
      outcomeLine unbolded (fun written =>
        s!"   After bold=False: {shown (written.get .weight)}\n") ++
      outcomeLine (unbolded.2.write .weight (Item.ofStyle .italic)) fun written =>
        s!"   Weight: {shown (written.get .weight)}\n"

/-- The fields of a document as a mapping. -/
def documentMapping (font : Document.Font) : Value :=
  let raw := font.raw
  .dict [(.text "family", raw.family), (.text "weight", raw.weight), (.text "style", raw.style),
    (.text "cached_face_id", raw.cachedFace)]

def documentConversion : String :=
  let title := "\n=== Document Conversion ===\n"
  let descriptor : Descriptor :=
    { family := .text "Test", weight := .extraBold, style := .italic }
  match (Conversion.toDocument descriptor).1 with
  | .error failure => title ++ refusalLine failure
  | .ok font =>
    let same := match (Conversion.ofDocument font.raw).1 with
      | .ok found => found.same descriptor
      | .error _ => false
    title ++ s!"   Document form: {(documentMapping font).literal}\n" ++
      s!"   Round trip equal: {shown (.bool same)}\n"

def text : String :=
  legacyFonts ++ fieldAccess ++ documentConversion

end Typeface.Tour
