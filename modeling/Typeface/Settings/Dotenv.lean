import Typeface.Settings.Surroundings
import Typeface.Text.Blank

/-!
# Dotenv files

A dotenv file gives variables line by line.  A value may be quoted, and then go
over several lines; a comment follows a blank; a line that does not fit is
skipped.  References to other variables are replaced in every value, with a
text to stand in for a variable that is not set.
-/

namespace Typeface.Dotenv

open Typeface.Text

/-- A blank within a line. -/
def isInner (letter : Char) : Bool :=
  isSpacing letter && letter != '\n' && letter != '\r'

def isLineEnd (letter : Char) : Bool :=
  letter == '\n' || letter == '\r'

/-- What follows the current line. -/
def skipLine (letters : List Char) : List Char :=
  match letters.dropWhile fun letter => !isLineEnd letter with
  | '\r' :: '\n' :: rest => rest
  | _ :: rest => rest
  | [] => []

/-- The end of a line after blanks and a comment, if nothing else is on it. -/
def lineEnd? (letters : List Char) : Option (List Char) :=
  let afterBlanks := letters.dropWhile isInner
  let afterComment := match afterBlanks with
    | '#' :: rest => rest.dropWhile fun letter => !isLineEnd letter
    | _ => afterBlanks
  match afterComment with
  | [] => some []
  | '\r' :: '\n' :: rest => some rest
  | letter :: rest => if isLineEnd letter then some rest else none

/-- Drops the word `export` and the blanks after it. -/
def skipExport (letters : List Char) : List Char :=
  match letters with
  | 'e' :: 'x' :: 'p' :: 'o' :: 'r' :: 't' :: blank :: rest =>
    if isInner blank then rest.dropWhile isInner else letters
  | _ => letters

/-- The name at the front; a comment has none. -/
def name? (letters : List Char) : Option (Option String × List Char) :=
  match letters with
  | '#' :: _ => some (none, letters)
  | '\'' :: rest =>
    let name := rest.takeWhile (· != '\'')
    match rest.dropWhile (· != '\'') with
    | _ :: after => if name.isEmpty then none else some (some (String.ofList name), after)
    | [] => none
  | _ =>
    let isName (letter : Char) : Bool := letter != '=' && letter != '#' && !isSpacing letter
    let name := letters.takeWhile isName
    if name.isEmpty then none
    else some (some (String.ofList name), letters.dropWhile isName)

/-- The text up to the closing mark.  A backslash and the character after it belong together if
that is a backslash or the mark; such a mark closes only where no other one does. -/
def enclosed? (mark : Char) : List Char → Option (List Char × List Char)
  | [] => none
  | [letter] => if letter = mark then some ([], []) else none
  | letter :: next :: rest =>
    if letter = mark then some ([], next :: rest)
    else if letter = '\\' ∧ next = '\\' then
      match enclosed? mark rest with
      | some (body, after) => some (letter :: next :: body, after)
      | none => none
    else if letter = '\\' ∧ next = mark then
      match enclosed? mark rest with
      | some (body, after) => some (letter :: next :: body, after)
      | none => some ([letter], rest)
    else
      match enclosed? mark (next :: rest) with
      | some (body, after) => some (letter :: body, after)
      | none => none

/-- The character that an escape in a quoted value stands for. -/
def escaped? (mark letter : Char) : Option Char :=
  if letter = '\\' ∨ letter = '\'' then some letter
  else if mark = '\'' then none
  else
    match letter with
    | '"' => some '"'
    | 'a' => some (Char.ofNat 7)
    | 'b' => some (Char.ofNat 8)
    | 'f' => some (Char.ofNat 12)
    | 'n' => some '\n'
    | 'r' => some '\r'
    | 't' => some '\t'
    | 'v' => some (Char.ofNat 11)
    | _ => none

def unescape (mark : Char) : List Char → List Char
  | '\\' :: letter :: rest =>
    match escaped? mark letter with
    | some plain => plain :: unescape mark rest
    | none => '\\' :: unescape mark (letter :: rest)
  | letter :: rest => letter :: unescape mark rest
  | [] => []

/-- Cuts a comment off: blanks, a number sign and all that follows.  The blanks after the equals
sign count, so a value may be nothing but a comment. -/
def cutComment : List Char → List Char
  | [] => []
  | letter :: rest =>
    if isSpacing letter && (rest.dropWhile isSpacing).head? == some '#' then []
    else letter :: cutComment rest

/-- The value after an equals sign. -/
def value? (letters : List Char) : Option (List Char × List Char) :=
  match letters.dropWhile isInner with
  | '\'' :: rest => (enclosed? '\'' rest).map fun found => (unescape '\'' found.1, found.2)
  | '"' :: rest => (enclosed? '"' rest).map fun found => (unescape '"' found.1, found.2)
  | _ =>
    let line := letters.takeWhile fun letter => !isLineEnd letter
    some (trim isSpacing (cutComment line), letters.dropWhile fun letter => !isLineEnd letter)

/-- A line that assigns: its name, its value if it has one, and what follows the line.  Where the
line does not fit, the rest of it from the place of the misfit is skipped. -/
def binding (letters : List Char) : Option (String × Option (List Char)) × List Char :=
  let start := skipExport letters
  match name? start with
  | none => (none, skipLine start)
  | some (name, afterName) =>
    let afterBlanks := afterName.dropWhile isInner
    let given : Option (Option (List Char) × List Char) × List Char :=
      match afterBlanks with
      | '=' :: rest =>
        match value? rest with
        | some (value, after) => (some (some value, after), after)
        | none => (none, rest)
      | _ => (some (none, afterBlanks), afterBlanks)
    match given with
    | (none, misfit) => (none, skipLine misfit)
    | (some (value, after), _) =>
      match lineEnd? after with
      | some rest => (name.map fun known => (known, value), rest)
      | none => (none, skipLine after)

/-- The bindings of a file.  The first argument bounds their number. -/
def bindings : Nat → List Char → List (String × Option (List Char))
  | 0, _ => []
  | steps + 1, letters =>
    match letters.dropWhile isSpacing with
    | [] => []
    | start =>
      match binding start with
      | (some found, rest) => found :: bindings steps rest
      | (none, rest) => bindings steps rest

/-- A reference at the front: the name of a variable and the text that stands in for it. -/
def reference? (letters : List Char) : Option (String × List Char × List Char) :=
  let isName (letter : Char) : Bool := letter != '\x7d' && letter != ':'
  match letters with
  | '$' :: '\x7b' :: rest =>
    let name := String.ofList (rest.takeWhile isName)
    match rest.dropWhile isName with
    | '\x7d' :: after => some (name, [], after)
    | ':' :: '-' :: standIn =>
      match standIn.dropWhile (· != '\x7d') with
      | _ :: after => some (name, standIn.takeWhile (· != '\x7d'), after)
      | [] => none
    | _ => none
  | _ => none

/-- Replaces references by what the variables before them hold, and by the environment. -/
def expand (known : Variables) : Nat → List Char → List Char
  | 0, _ => []
  | steps + 1, letters =>
    match reference? letters with
    | some (name, standIn, rest) =>
      let content := match known.reverse.lookup name with
        | some (some value) => value.toList
        | some none => []
        | none => standIn
      content ++ expand known steps rest
    | none =>
      match letters with
      | [] => []
      | letter :: rest => letter :: expand known steps rest

/-- Expands the bindings in turn, each with those before it. -/
def resolve (known : Variables) : List (String × Option (List Char)) → Variables
  | [] => []
  | (name, value) :: rest =>
    let resolved := value.map fun letters =>
      String.ofList (expand known (letters.length + 1) letters)
    (name, resolved) :: resolve (known ++ [(name, resolved)]) rest

/-- Line ends of all conventions as line feeds. -/
def unifyLineEnds : List Char → List Char
  | '\r' :: '\n' :: rest => '\n' :: unifyLineEnds rest
  | '\r' :: rest => '\n' :: unifyLineEnds rest
  | letter :: rest => letter :: unifyLineEnds rest
  | [] => []

/-- A text without the byte order mark that may stand in front. -/
def withoutMark : List Char → List Char
  | '\uFEFF' :: rest => rest
  | letters => letters

/-- The variables of a dotenv text. -/
def decode (environment : List (String × String)) (text : String) : Variables :=
  let letters := unifyLineEnds (withoutMark text.toList)
  (resolve (Variables.ofEnvironment environment) (bindings (letters.length + 1) letters)).distinct

end Typeface.Dotenv
