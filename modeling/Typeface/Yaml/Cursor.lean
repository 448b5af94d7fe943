/-!
# Cursors

A place in a YAML text: the characters that follow, and the index, line and
column of the next one.  The end of the text counts as the end of a word and
of a line.
-/

namespace Typeface.Yaml

structure Cursor where
  rest : List Char
  index : Nat
  line : Nat
  column : Nat

def byteOrderMark : Char := '\ufeff'

def isBreak (letter : Char) : Bool :=
  letter == '\n' || letter == '\r' || letter == '\x85' || letter == '\u2028' || letter == '\u2029'

def isBlank (letter : Char) : Bool :=
  letter == ' ' || letter == '\t'

/-- Letters, digits, hyphens and underscores make up anchors and handles. -/
def isWordLetter (letter : Char) : Bool :=
  ('0' ≤ letter && letter ≤ '9') || ('a' ≤ letter && letter ≤ 'z') ||
    ('A' ≤ letter && letter ≤ 'Z') || letter == '-' || letter == '_'

namespace Cursor

def start (letters : List Char) : Cursor :=
  { rest := letters, index := 0, line := 0, column := 0 }

def peek (cursor : Cursor) : Option Char :=
  cursor.rest.head?

def peekSecond (cursor : Cursor) : Option Char :=
  cursor.rest.tail.head?

/-- Moves over one character.  A byte order mark takes no column. -/
def next (cursor : Cursor) : Cursor :=
  match cursor.rest with
  | [] => cursor
  | letter :: rest =>
    if isBreak letter && !(letter == '\r' && rest.head? == some '\n') then
      { rest, index := cursor.index + 1, line := cursor.line + 1, column := 0 }
    else
      { rest
        index := cursor.index + 1
        line := cursor.line
        column := if letter == byteOrderMark then cursor.column else cursor.column + 1 }

def advance (cursor : Cursor) : Nat → Cursor
  | 0 => cursor
  | count + 1 => cursor.next.advance count

/-- The characters of a set at the front, and the place after them. -/
def span (cursor : Cursor) (isIn : Char → Bool) : List Char × Cursor :=
  let taken := cursor.rest.takeWhile isIn
  (taken, cursor.advance taken.length)

def skip (cursor : Cursor) (isIn : Char → Bool) : Cursor :=
  (cursor.span isIn).2

/-- Whether nothing, a blank or a line break comes next. -/
def endsWord : Option Char → Bool
  | none => true
  | some letter => isBlank letter || isBreak letter

/-- Whether nothing, a space or a line break comes next. -/
def endsField : Option Char → Bool
  | none => true
  | some letter => letter == ' ' || isBreak letter

/-- Whether nothing or a line break comes next. -/
def endsLine : Option Char → Bool
  | none => true
  | some letter => isBreak letter

/-- A line break at the front, as it counts in texts. -/
def lineBreak? (cursor : Cursor) : Option (Char × Cursor) :=
  match cursor.rest with
  | '\r' :: '\n' :: _ => some ('\n', cursor.advance 2)
  | letter :: _ =>
    if letter == '\u2028' || letter == '\u2029' then some (letter, cursor.next)
    else if isBreak letter then some ('\n', cursor.next)
    else none
  | [] => none

/-- Whether three marks of a sort come next, as a word. -/
def atTriple (cursor : Cursor) (mark : Char) : Bool :=
  match cursor.rest with
  | first :: second :: third :: rest =>
    first == mark && second == mark && third == mark && endsWord rest.head?
  | _ => false

/-- Whether the mark of a document's start or end comes next. -/
def atDocumentMark (cursor : Cursor) : Bool :=
  cursor.atTriple '-' || cursor.atTriple '.'

end Cursor

end Typeface.Yaml
