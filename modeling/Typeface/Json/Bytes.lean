import Typeface.Json.Decoder

/-!
# JSON in bytes

The encoding of a JSON text shows in its first four bytes: in the mark of the
byte order, or in the pattern of zeros, since a JSON text begins with characters
of ASCII.  Bytes that the encoding does not fit are read as UTF-8 or else as
Latin-1.
-/

namespace Typeface.Json

open Typeface.Text

inductive Encoding
  | utf8
  | utf16 (order : ByteOrder)
  | utf32 (order : ByteOrder)
deriving DecidableEq, Repr

/-- The encoding of a text, with the number of bytes that its mark takes. -/
def encoding? (bytes : Bytes) : Option (Encoding × Nat) :=
  match bytes.take 4 with
  | [0xFF, 0xFE, 0, 0] => some (.utf32 .little, 4)
  | [0, 0, 0xFE, 0xFF] => some (.utf32 .big, 4)
  | 0xEF :: 0xBB :: 0xBF :: _ => some (.utf8, 3)
  | 0xFF :: 0xFE :: _ => some (.utf16 .little, 2)
  | 0xFE :: 0xFF :: _ => some (.utf16 .big, 2)
  | sample =>
    match sample.map (· == 0) with
    | [false, false, false, false] => some (.utf8, 0)
    | [true, false, true, false] => some (.utf16 .big, 0)
    | [false, true, false, true] => some (.utf16 .little, 0)
    | [true, true, true, false] => some (.utf32 .big, 0)
    | [false, true, true, true] => some (.utf32 .little, 0)
    | _ => none

def textIn? (encoding : Encoding) (bytes : Bytes) : Option String :=
  match encoding with
  | .utf8 => utf8? bytes
  | .utf16 order => utf16? order bytes
  | .utf32 order => utf32? order bytes

/-- Every byte is the code point of a character. -/
def latin1 (bytes : Bytes) : String :=
  String.ofList (bytes.map fun byte => Char.ofNat byte.toNat)

/-- The text of bytes; three bytes and fewer show no encoding. -/
def textOf (bytes : Bytes) : String :=
  let shown := if bytes.length ≤ 3 then none else encoding? bytes
  let decoded := shown.bind fun (encoding, mark) => textIn? encoding (bytes.drop mark)
  decoded.getD ((utf8? bytes).getD (latin1 bytes))

/-- The value of a JSON text in bytes. -/
def decodeBytes (depth : Nat) (bytes : Bytes) : Except Problem Value :=
  decode depth (textOf bytes)

end Typeface.Json
