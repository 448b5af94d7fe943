import Typeface.Failure
import Typeface.Text.Digit
import Typeface.Yaml.Cursor

/-!
# Scalars

The four ways to write a text in YAML: plain, between apostrophes, between
quotation marks, and as a block of lines.  A line break within a scalar counts
as a space, several count as one less.
-/

namespace Typeface.Yaml

open Typeface.Text

def malformed {α : Type} : Except Mishap α :=
  .error .malformedYaml

/-- What line breaks in a row count as: the first one, and those after it. -/
def foldBreaks (first : Char) (others : List Char) : List Char :=
  if first != '\n' then first :: others
  else if others.isEmpty then [' ']
  else others

namespace Quoted

/-- The breaks of empty lines.  A mark of a document's start or end may not come there. -/
def breaks : Nat → Cursor → Except Mishap (List Char × Cursor)
  | 0, _ => malformed
  | steps + 1, cursor =>
    if cursor.atDocumentMark then malformed
    else
      let cursor := cursor.skip isBlank
      match cursor.lineBreak? with
      | none => .ok ([], cursor)
      | some (first, after) => do
        let (others, after) ← breaks steps after
        return (first :: others, after)

/-- Blanks and line breaks between the words of a quoted text. -/
def spaces (cursor : Cursor) : Except Mishap (List Char × Cursor) :=
  let (blanks, afterBlanks) := cursor.span isBlank
  match afterBlanks.peek, afterBlanks.lineBreak? with
  | none, _ => malformed
  | some _, none => .ok (blanks, afterBlanks)
  | some _, some (first, after) => do
    let (others, after) ← breaks (after.rest.length + 1) after
    return (foldBreaks first others, after)

/-- The character of an escape that is one letter. -/
def shortEscape? : Char → Option Nat
  | '0' => some 0
  | 'a' => some 7
  | 'b' => some 8
  | 't' => some 9
  | '\t' => some 9
  | 'n' => some 10
  | 'v' => some 11
  | 'f' => some 12
  | 'r' => some 13
  | 'e' => some 0x1B
  | ' ' => some 0x20
  | '"' => some 0x22
  | '\\' => some 0x5C
  | '/' => some 0x2F
  | 'N' => some 0x85
  | '_' => some 0xA0
  | 'L' => some 0x2028
  | 'P' => some 0x2029
  | _ => none

/-- How many hexadecimal digits follow the letter of an escape by number. -/
def escapeWidth? : Char → Option Nat
  | 'x' => some 2
  | 'u' => some 4
  | 'U' => some 8
  | _ => none

/-- A code point by number.  Numbers beyond the range of characters are wrong, and those beyond
the range of machine integers are out of range. -/
def numbered (width : Nat) (cursor : Cursor) : Except Mishap (Nat × Cursor) :=
  let digits := cursor.rest.take width
  match digits.mapM hexDigit? with
  | none => malformed
  | some values =>
    let code := ofDigits 16 values
    if digits.length < width then malformed
    else if 0x7FFFFFFF < code then .error .outOfRange
    else if 0x10FFFF < code then .error .wrongValue
    else .ok (code, cursor.advance width)

/-- What an escape stands for, after the backslash. -/
def escape (cursor : Cursor) : Except Mishap (List Nat × Cursor) :=
  match cursor.peek with
  | none => malformed
  | some letter =>
    match shortEscape? letter, escapeWidth? letter, cursor.lineBreak? with
    | some code, _, _ => .ok ([code], cursor.next)
    | none, some width, _ => do
      let (code, after) ← numbered width cursor.next
      return ([code], after)
    | none, none, some (_, after) => do
      let (others, after) ← breaks (after.rest.length + 1) after
      return (others.map Char.toNat, after)
    | none, none, none => malformed

/-- The words of a quoted text up to its closing mark. -/
def body (mark : Char) : Nat → Cursor → Except Mishap (List Nat × Cursor)
  | 0, _ => malformed
  | steps + 1, cursor =>
    match cursor.rest with
    | [] => malformed
    | letter :: rest =>
      if letter == mark then
        if mark == '\'' && rest.head? == some '\'' then do
          let (codes, after) ← body mark steps (cursor.advance 2)
          return (letter.toNat :: codes, after)
        else .ok ([], cursor.next)
      else if mark == '"' && letter == '\\' then do
        let (codes, after) ← escape cursor.next
        let (others, after) ← body mark steps after
        return (codes ++ others, after)
      else if isBlank letter || isBreak letter then do
        let (letters, after) ← spaces cursor
        let (others, after) ← body mark steps after
        return (letters.map Char.toNat ++ others, after)
      else do
        let (codes, after) ← body mark steps cursor.next
        return (letter.toNat :: codes, after)

end Quoted

/-- A text between marks, the opening one next. -/
def quotedScalar (mark : Char) (cursor : Cursor) : Except Mishap (List Nat × Cursor) :=
  Quoted.body mark (cursor.rest.length + 1) cursor.next

namespace Plain

/-- The characters that structure flow collections. -/
def isFlowMark (letter : Char) : Bool :=
  letter == ',' || letter == '[' || letter == ']' || letter == '\x7b' || letter == '\x7d'

/-- Whether a colon before the character ends a plain text. -/
def endsKey (inFlow : Bool) (following : Option Char) : Bool :=
  Cursor.endsWord following || (inFlow && following.any isFlowMark)

/-- The letters of a plain text up to a blank, a line break or a mark. -/
def word (inFlow : Bool) : List Char → List Char
  | [] => []
  | letter :: rest =>
    if Cursor.endsWord (some letter) || (letter == ':' && endsKey inFlow rest.head?) ||
        (inFlow && (isFlowMark letter || letter == '?')) then []
    else letter :: word inFlow rest

/-- The breaks of empty lines, unless a mark of a document's start or end comes. -/
def breaks : Nat → Cursor → Option (List Char) × Cursor
  | 0, cursor => (none, cursor)
  | steps + 1, cursor =>
    if cursor.atDocumentMark then (none, cursor)
    else
      let cursor := cursor.skip (· == ' ')
      match cursor.lineBreak? with
      | none => (some [], cursor)
      | some (first, after) =>
        match breaks steps after with
        | (some others, final) => (some (first :: others), final)
        | (none, final) => (none, final)

/-- What stands between two words of a plain text, and whether a line break is in it. -/
def spaces (cursor : Cursor) : List Char × Bool × Cursor :=
  let (blanks, afterBlanks) := cursor.span (· == ' ')
  match afterBlanks.lineBreak? with
  | none => (blanks, false, afterBlanks)
  | some (first, after) =>
    match breaks (after.rest.length + 1) after with
    | (some others, final) => (foldBreaks first others, true, final)
    | (none, final) => ([], true, final)

/-- A plain text.  It ends at a comment, and in a block where a line is not indented enough. -/
def body (inFlow : Bool) (indent : Int) : Nat → Cursor → List Char × Bool × Cursor
  | 0, cursor => ([], false, cursor)
  | steps + 1, cursor =>
    let letters := word inFlow cursor.rest
    if letters.isEmpty || cursor.peek == some '#' then ([], false, cursor)
    else
      let (between, broken, after) := spaces (cursor.advance letters.length)
      if between.isEmpty || after.peek == some '#' ||
          (!inFlow && (after.column : Int) < indent) then (letters, broken, after)
      else
        match body inFlow indent steps after with
        | ([], _, final) => (letters, broken, final)
        | (others, laterBroken, final) => (letters ++ between ++ others, laterBroken, final)

end Plain

/-- A plain text, whether a line break follows it, and the place of the next token. -/
def plainScalar (inFlow : Bool) (indent : Int) (cursor : Cursor) : List Char × Bool × Cursor :=
  Plain.body inFlow indent (cursor.rest.length + 1) cursor

namespace Block

/-- How the line breaks at the end of a block are kept. -/
inductive Chomping
  | clip
  | strip
  | keep
deriving DecidableEq, Repr

/-- The header of a block: its chomping, and its indentation if it is given. -/
structure Header where
  chomping : Chomping
  indent : Option Nat

def chompingOf? : Option Char → Option Chomping
  | some '+' => some .keep
  | some '-' => some .strip
  | _ => none

def indentOf? (letter : Option Char) : Option Nat :=
  letter.bind plainDigit?

/-- The header, in which chomping and indentation may come in either order. -/
def header (cursor : Cursor) : Except Mishap (Header × Cursor) := do
  let (chomping, indent, after) :=
    match chompingOf? cursor.peek, indentOf? cursor.peek with
    | some chomping, _ =>
      match indentOf? cursor.next.peek with
      | some indent => (chomping, some indent, cursor.advance 2)
      | none => (chomping, none, cursor.next)
    | none, some indent =>
      match chompingOf? cursor.next.peek with
      | some chomping => (chomping, some indent, cursor.advance 2)
      | none => (Chomping.clip, some indent, cursor.next)
    | none, none => (Chomping.clip, none, cursor)
  if indent == some 0 || !Cursor.endsField after.peek then malformed
  else return ({ chomping, indent }, after)

/-- Spaces, a comment and a line break: the rest of a line that says nothing more. -/
def restOfLine (cursor : Cursor) : Except Mishap Cursor :=
  let afterBlanks := cursor.skip (· == ' ')
  let afterComment :=
    if afterBlanks.peek == some '#' then afterBlanks.skip fun letter => !isBreak letter
    else afterBlanks
  match afterComment.peek, afterComment.lineBreak? with
  | none, _ => .ok afterComment
  | some _, some (_, after) => .ok after
  | some _, none => malformed

/-- Moves over spaces up to a column. -/
def indentTo (column : Int) (cursor : Cursor) : Cursor :=
  let spaces := (cursor.rest.takeWhile (· == ' ')).length
  cursor.advance (min spaces (column - cursor.column).toNat)

/-- The breaks of empty lines before the first line, and the deepest column of spaces there. -/
def leading : Nat → Nat → Cursor → List Char × Nat × Cursor
  | 0, deepest, cursor => ([], deepest, cursor)
  | steps + 1, deepest, cursor =>
    let afterSpaces := cursor.skip (· == ' ')
    let deepest := if cursor.peek == some ' ' then max deepest afterSpaces.column else deepest
    match afterSpaces.lineBreak? with
    | none => ([], deepest, afterSpaces)
    | some (first, after) =>
      let (others, deepest, final) := leading steps deepest after
      (first :: others, deepest, final)

/-- The breaks of empty lines between lines of a block. -/
def breaks (indent : Int) : Nat → Cursor → List Char × Cursor
  | 0, cursor => ([], cursor)
  | steps + 1, cursor =>
    let cursor := indentTo indent cursor
    match cursor.lineBreak? with
    | none => ([], cursor)
    | some (first, after) =>
      let (others, final) := breaks indent steps after
      (first :: others, final)

/-- The lines of a block after the breaks before them: their text, the last line break and the
breaks after it. -/
def lines (folded : Bool) (indent : Int) :
    Nat → List Char → Cursor → List Char × List Char × List Char × Cursor
  | 0, before, cursor => ([], [], before, cursor)
  | steps + 1, before, cursor =>
    let (line, afterLine) := cursor.span fun letter => !isBreak letter
    let (lineBreak, afterBreak) := match afterLine.lineBreak? with
      | some (letter, after) => ([letter], after)
      | none => ([], afterLine)
    let (between, final) := breaks indent (afterBreak.rest.length + 1) afterBreak
    if (final.column : Int) == indent && final.peek.isSome then
      let startsText (letter : Option Char) : Bool := !letter.any isBlank
      let joint :=
        if folded && lineBreak == ['\n'] && startsText cursor.peek && startsText final.peek then
          if between.isEmpty then [' '] else []
        else lineBreak
      let (others, lastBreak, trailing, final) := lines folded indent steps between final
      (before ++ line ++ joint ++ others, lastBreak, trailing, final)
    else (before ++ line, lineBreak, between, final)

end Block

/-- A block of lines, the mark of its style next, inside a collection of some indentation. -/
def blockScalar (folded : Bool) (outer : Int) (cursor : Cursor) : Except Mishap (List Char × Cursor) := do
  let (header, after) ← Block.header cursor.next
  let after ← Block.restOfLine after
  let least := max (outer + 1) 1
  let (before, indent, after) :=
    match header.indent with
    | none =>
      let (before, deepest, after) := Block.leading (after.rest.length + 1) 0 after
      (before, max least deepest, after)
    | some increment =>
      let indent := least + increment - 1
      let (before, after) := Block.breaks indent (after.rest.length + 1) after
      (before, indent, after)
  let (text, lastBreak, trailing, final) :=
    if (after.column : Int) == indent && after.peek.isSome then
      Block.lines folded indent (after.rest.length + 1) before after
    else ([], [], before, after)
  let ending := match header.chomping with
    | .strip => []
    | .clip => lastBreak
    | .keep => lastBreak ++ trailing
  return (text ++ ending, final)

end Typeface.Yaml
