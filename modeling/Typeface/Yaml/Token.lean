import Typeface.Number.Numeral
import Typeface.Yaml.Scalar

/-!
# Tokens

The tokens of a YAML text, and how those that carry a name are written: anchors
and references to them, tags, and directives.  A failure stands where reading
breaks off, so that what comes before it can still be judged.
-/

namespace Typeface.Yaml

open Typeface.Text

inductive Token
  /-- A directive that declares a version of the language. -/
  | version (major : Nat)
  /-- A directive that gives a handle for the beginnings of tags. -/
  | handle (name stem : String)
  /-- Any other directive. -/
  | directive
  | documentStart
  | documentEnd
  | blockSequence
  | blockMapping
  | blockEnd
  | flowSequence
  | flowSequenceEnd
  | flowMapping
  | flowMappingEnd
  | blockEntry
  | flowEntry
  | key
  | value
  | reference (name : String)
  | anchor (name : String)
  | tag (handle : Option String) (suffix : String)
  /-- A text, and whether it is plain: only then its form decides what it stands for. -/
  | scalar (plain : Bool) (codes : List Nat)
  | streamEnd
  | failure (mishap : Mishap)
deriving DecidableEq, Repr

namespace Token

/-- The name of an anchor, after its mark. -/
def anchorName (cursor : Cursor) : Except Mishap (String × Cursor) :=
  let (name, after) := cursor.span isWordLetter
  let mayFollow (letter : Char) : Bool :=
    Cursor.endsWord (some letter) || letter == '?' || letter == ':' || letter == ',' ||
      letter == ']' || letter == '\x7d' || letter == '%' || letter == '@' || letter.toNat == 0x60
  if name.isEmpty || !after.peek.all mayFollow then malformed
  else .ok (String.ofList name, after)

/-- Whether a character may stand in a tag. -/
def isTagLetter (letter : Char) : Bool :=
  isWordLetter letter || ";/?:@&=+$,.!~*'()[]%".toList.contains letter

/-- Bytes written as a percent sign and two hexadecimal digits each. -/
def escapedBytes : List Char → Except Mishap (Bytes × Nat)
  | '%' :: high :: low :: rest =>
    match hexDigit? high, hexDigit? low with
    | some high, some low => do
      let (bytes, length) ← escapedBytes rest
      return ((high * 16 + low).toUInt8 :: bytes, length + 3)
    | _, _ => malformed
  | '%' :: _ => malformed
  | _ => .ok ([], 0)

/-- Decodes the escapes in the letters of a tag.  The first argument bounds the walk. -/
def unescape : Nat → List Char → Except Mishap (List Char)
  | 0, _ => malformed
  | steps + 1, letters =>
    match letters with
    | [] => .ok []
    | '%' :: _ => do
      let (bytes, length) ← escapedBytes letters
      match utf8? bytes with
      | none => malformed
      | some text =>
        let others ← unescape steps (letters.drop length)
        return text.toList ++ others
    | letter :: rest => do
      let others ← unescape steps rest
      return letter :: others

/-- The letters of a tag, of which there must be some. -/
def tagLetters (cursor : Cursor) : Except Mishap (String × Cursor) := do
  let (letters, after) := cursor.span isTagLetter
  if letters.isEmpty then malformed
  else
    let text ← unescape (letters.length + 1) letters
    return (String.ofList text, after)

/-- A handle: an exclamation mark alone, or a word between two of them. -/
def tagHandle (cursor : Cursor) : Except Mishap (String × Cursor) :=
  match cursor.rest with
  | '!' :: rest =>
    if rest.head? == some ' ' then .ok ("!", cursor.next)
    else
      let word := rest.takeWhile isWordLetter
      if (rest.drop word.length).head? == some '!' then
        .ok (String.ofList ('!' :: word ++ ['!']), cursor.advance (word.length + 2))
      else malformed
  | _ => malformed

/-- A token, unless the next character continues it. -/
def ended (token : Token) (cursor : Cursor) : Except Mishap (Token × Cursor) :=
  if Cursor.endsField cursor.peek then .ok (token, cursor) else malformed

/-- A tag, its mark next. -/
def tagAt (cursor : Cursor) : Except Mishap (Token × Cursor) :=
  if cursor.peekSecond == some '<' then do
    let (suffix, after) ← tagLetters (cursor.advance 2)
    if after.peek == some '>' then ended (.tag none suffix) after.next else malformed
  else if Cursor.endsWord cursor.peekSecond then ended (.tag none "!") cursor.next
  else
    let word := cursor.rest.tail.takeWhile fun letter => !Cursor.endsField (some letter)
    if word.contains '!' then do
      let (name, after) ← tagHandle cursor
      let (suffix, after) ← tagLetters after
      ended (.tag (some name) suffix) after
    else do
      let (suffix, after) ← tagLetters cursor.next
      ended (.tag (some "!") suffix) after

/-- The number of a version. -/
def versionNumber (cursor : Cursor) : Except Mishap (Nat × Cursor) :=
  let (digits, after) := cursor.span fun letter => (plainDigit? letter).isSome
  if digits.isEmpty then malformed
  else if Number.digitLimit < digits.length then .error .wrongValue
  else .ok (ofDigits 10 (digits.filterMap plainDigit?), after)

def versionAt (cursor : Cursor) : Except Mishap (Token × Cursor) := do
  let (major, after) ← versionNumber (cursor.skip (· == ' '))
  if after.peek != some '.' then malformed
  else
    let (_, after) ← versionNumber after.next
    ended (.version major) after

def handleAt (cursor : Cursor) : Except Mishap (Token × Cursor) := do
  let (name, after) ← tagHandle (cursor.skip (· == ' '))
  if after.peek != some ' ' then malformed
  else
    let (stem, after) ← tagLetters (after.skip (· == ' '))
    ended (.handle name stem) after

/-- A directive with the rest of its line, its mark next. -/
def directiveAt (cursor : Cursor) : Except Mishap (Token × Cursor) := do
  let (name, after) := cursor.next.span isWordLetter
  if name.isEmpty || !Cursor.endsField after.peek then malformed
  else
    let (token, after) ←
      match String.ofList name with
      | "YAML" => versionAt after
      | "TAG" => handleAt after
      | _ => .ok (Token.directive, after.skip fun letter => !isBreak letter)
    let after ← Block.restOfLine after
    return (token, after)

end Token

end Typeface.Yaml
