import Typeface.Text.Encoding

/-!
# Host texts

The texts of programs and services are sequences of code points, and a code
point may be a surrogate, which is no character.  A surrogate passes through a
program as any other code point does.  Only where a text leaves it, as a line of
output or as the name of a file, must it be made of characters; in names, the
surrogates from U+DC80 on stand for single bytes.
-/

namespace Typeface

structure HostText where
  codes : List Nat
deriving DecidableEq, Repr

/-- Code points of which one is no character. -/
structure BrokenText where
  codes : List Nat
  broken : codes.mapM Text.scalar? = none
deriving DecidableEq, Repr

namespace HostText

open Typeface.Text

def ofText (content : String) : HostText :=
  { codes := content.toList.map Char.toNat }

instance : Coe String HostText := ⟨ofText⟩

instance : Inhabited HostText := ⟨{ codes := [] }⟩

instance : Append HostText := ⟨fun left right => { codes := left.codes ++ right.codes }⟩

def isEmpty (text : HostText) : Bool :=
  text.codes.isEmpty

def startsWith (text opening : HostText) : Bool :=
  opening.codes.isPrefixOf text.codes

/-- The text as characters, if it is made of them. -/
def plain? (text : HostText) : Option String :=
  (text.codes.mapM scalar?).map String.ofList

def replacement : Char := '\uFFFD'

/-- The characters, with one that replaces each surrogate. -/
def letters (text : HostText) : List Char :=
  text.codes.map fun (code : Nat) => (scalar? code).getD replacement

/-- The text in reports, which replace each of the three bytes that a surrogate takes. -/
def reported (text : HostText) : String :=
  String.ofList (text.codes.flatMap fun (code : Nat) =>
    match scalar? code with
    | some letter => [letter]
    | none => List.replicate 3 replacement)

/-- A byte after the first one of a character: the last six bits of a number. -/
def trailing (bits : Nat) : UInt8 :=
  (0x80 + bits % 0x40).toUInt8

/-- The UTF-8 form of a code point. -/
def utf8Bytes (code : Nat) : Bytes :=
  if code < 0x80 then [code.toUInt8]
  else if code < 0x800 then [(0xC0 + code / 0x40).toUInt8, trailing code]
  else if code < 0x10000 then
    [(0xE0 + code / 0x1000).toUInt8, trailing (code / 0x40), trailing code]
  else
    [(0xF0 + code / 0x40000).toUInt8, trailing (code / 0x1000), trailing (code / 0x40),
      trailing code]

/-- The bytes of a code point in the name of a file, if names can hold it. -/
def nameBytes? (code : Nat) : Option Bytes :=
  if 0xDC80 ≤ code ∧ code ≤ 0xDCFF then some [(code - 0xDC00).toUInt8]
  else if code.isValidChar then some (utf8Bytes code)
  else none

/-- The bytes of a text in the name of a file, if names can hold all of it. -/
def bytes? (text : HostText) : Option Bytes :=
  (text.codes.mapM nameBytes?).map List.flatten

end HostText

end Typeface
