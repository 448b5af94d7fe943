import Typeface.Descriptor
import Typeface.Document.Font
import Typeface.Log

/-!
# Conversion between descriptors and documents

Both sides have the same codes, so converting loses nothing but the cached
face.  A code that the other side does not know means that the two have drifted
apart; it is logged and reported as a violation of integrity, with the code as
it was found.
-/

namespace Typeface.Conversion

open Value

/-- An outcome together with the records logged on the way. -/
abbrev Logged (α : Type) := Except Failure α × Log

def source : String := "fontident.fonts.conversion"

/-- Logs an error and reports a violation of integrity. -/
def violation {α : Type} (field : String) (code : Value) (message : String) : Logged α :=
  (Failure.raise (.integrityViolation (.text field) code),
    [{ severity := .error, source, message }])

/-- The code of a weight or a style; nothing else has one. -/
def codeOf? : Value → Option Nat
  | .weight value => some value.code
  | .style value => some value.code
  | _ => none

/-- The message about a code that documents lack. -/
def lacking (field : String) (code : Nat) : String :=
  let shown := Number.decimal code
  s!"Document model has no {field} for code {shown}"

def weightToDocument (given : Value) : Logged Document.Weight :=
  match codeOf? given with
  | none => (Failure.ofMishap .noSuchAttribute, [])
  | some code =>
    match Document.Weight.ofCode? code with
    | some found => (.ok found, [])
    | none => violation "weight" (.int code) (lacking "weight" code)

def styleToDocument (given : Value) : Logged Document.Style :=
  match codeOf? given with
  | none => (Failure.ofMishap .noSuchAttribute, [])
  | some code =>
    match Document.Style.ofCode? code with
    | some found => (.ok found, [])
    | none => violation "style" (.int code) (lacking "style" code)

/-- The integer that a value converts to: fractions are cut off and numerals are read. -/
def wholeOf : Value → Except Mishap Int
  | .bool value => .ok (if value then 1 else 0)
  | .int value => .ok value
  | .documentWeight value => .ok value.code
  | .documentStyle value => .ok value.code
  | .float .nan => .error .wrongValue
  | .float (.infinite _) => .error .outOfRange
  | .float value => .ok (value.truncate?.getD 0)
  | .text content =>
    match Number.plainInteger? content with
    | some value => .ok value
    | none => .error .wrongValue
  | .brokenText _ => .error .wrongValue
  | .bytes content =>
    match Number.plainIntegerOfBytes? content with
    | some value => .ok value
    | none => .error .wrongValue
  | _ => .error .wrongArgument

/-- The message about a code that descriptors lack. -/
def unrecognised (field : String) (shown : String) : String :=
  s!"Unrecognised document {field} code: {shown}"

/-- Refuses a code that descriptors lack.  The record is written before the violation is reported,
so a code that cannot be written ends the conversion there. -/
def refuse {α : Type} (field : String) (code : Value) : Logged α :=
  match code.written with
  | .ok shown => violation field code (unrecognised field shown)
  | .error reason => (Failure.ofMishap (.ofUnwritten reason), [])

/-- Looks a code of a document up. -/
def fromDocument {α : Type} (field : String) (ofCode? : Int → Option α) (code : Value) :
    Logged α :=
  match wholeOf code with
  | .error .outOfRange => (Failure.ofMishap .outOfRange, [])
  | .error _ => refuse field code
  | .ok whole =>
    match ofCode? whole with
    | some found => (.ok found, [])
    | none => refuse field code

def weightFromDocument (code : Value) : Logged Weight :=
  fromDocument "weight" Weight.ofCode? code

def styleFromDocument (code : Value) : Logged Style :=
  fromDocument "style" Style.ofCode? code

/-- The second of two steps, with the records of both. -/
def andThen {α β : Type} (first : Logged α) (next : α → Logged β) : Logged β :=
  match first with
  | (.ok found, log) =>
    let rest := next found
    (rest.1, log ++ rest.2)
  | (.error failure, log) => (.error failure, log)

/-- The form of a descriptor in documents.  The family must be a text, or spell one. -/
def toDocument (descriptor : Descriptor) : Logged Document.Font :=
  andThen (weightToDocument (.weight descriptor.weight)) fun weight =>
    andThen (styleToDocument (.style descriptor.style)) fun style =>
      let fields : Fields :=
        [("family", descriptor.family), ("weight", .documentWeight weight),
          ("style", .documentStyle style), ("cached_face_id", .null)]
      ((Document.Font.ofFields fields).orFail, [])

/-- The descriptor of a document's font.  The weight is looked up before the style. -/
def ofDocument (font : Document.RawFont) : Logged Descriptor :=
  andThen (weightFromDocument font.weight) fun weight =>
    andThen (styleFromDocument font.style) fun style =>
      (.ok { family := font.family, weight, style }, [])

end Typeface.Conversion
