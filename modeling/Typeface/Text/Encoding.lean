/-!
# Encodings of text

Byte strings are lists of bytes.  `utf8?`, `utf16?` and `utf32?` read a byte
string strictly: a byte sequence that no text encodes has no reading.
-/

namespace Typeface.Text

abbrev Bytes := List UInt8

/-- The text whose UTF-8 form the bytes are. -/
def utf8? (bytes : Bytes) : Option String :=
  String.fromUTF8? ⟨bytes.toArray⟩

def toUtf8 (text : String) : Bytes :=
  text.toUTF8.data.toList

inductive ByteOrder
  | big
  | little
deriving DecidableEq, Repr

/-- The character with a code point, unless the point is a surrogate or out of range. -/
def scalar? (code : Nat) : Option Char :=
  if h : code.isValidChar then some (Char.ofNatAux code h) else none

/-- Joins two bytes into a sixteen-bit unit. -/
def unit16 (order : ByteOrder) (first second : UInt8) : Nat :=
  match order with
  | .big => first.toNat * 256 + second.toNat
  | .little => second.toNat * 256 + first.toNat

/-- The sixteen-bit units of a byte string of even length. -/
def units16? (order : ByteOrder) : Bytes → Option (List Nat)
  | [] => some []
  | [_] => none
  | first :: second :: rest => (units16? order rest).map (unit16 order first second :: ·)

def isHighSurrogate (unit : Nat) : Bool := 0xD800 ≤ unit && unit < 0xDC00

def isLowSurrogate (unit : Nat) : Bool := 0xDC00 ≤ unit && unit < 0xE000

/-- The code point that a surrogate pair stands for. -/
def joinSurrogates (high low : Nat) : Nat :=
  0x10000 + (high - 0xD800) * 0x400 + (low - 0xDC00)

/-- The characters that sixteen-bit units spell. -/
def ofUnits16? : List Nat → Option (List Char)
  | [] => some []
  | [unit] => (scalar? unit).map ([·])
  | unit :: next :: rest =>
    if isHighSurrogate unit && isLowSurrogate next then do
      let letter ← scalar? (joinSurrogates unit next)
      let letters ← ofUnits16? rest
      return letter :: letters
    else do
      let letter ← scalar? unit
      let letters ← ofUnits16? (next :: rest)
      return letter :: letters

def utf16? (order : ByteOrder) (bytes : Bytes) : Option String := do
  let units ← units16? order bytes
  let letters ← ofUnits16? units
  return String.ofList letters

def utf32Letters? (order : ByteOrder) : Bytes → Option (List Char)
  | [] => some []
  | first :: second :: third :: fourth :: rest => do
    let code := match order with
      | .big => unit16 .big first second * 65536 + unit16 .big third fourth
      | .little => unit16 .little third fourth * 65536 + unit16 .little first second
    let letter ← scalar? code
    let letters ← utf32Letters? order rest
    return letter :: letters
  | _ => none

def utf32? (order : ByteOrder) (bytes : Bytes) : Option String :=
  (utf32Letters? order bytes).map String.ofList

end Typeface.Text
