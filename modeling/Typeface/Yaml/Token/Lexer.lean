import Typeface.Yaml.Token

/-!
# From text to tokens

The indentation of lines becomes tokens that open and close collections.  What
looks like the text of a key stays pending until a colon follows it on its
line, and the token for the key is then put in front of it.
-/

namespace Typeface.Yaml

/-- What may turn out to be a key: where its first token is, and where it stands. -/
structure PendingKey where
  token : Nat
  /-- Nothing but a key can stand there. -/
  required : Bool
  place : Cursor

structure Lexer where
  cursor : Cursor
  /-- The number of flow collections that are open. -/
  depth : Nat
  /-- The column of the innermost block collection, below zero if there is none. -/
  indent : Int
  /-- The columns of the block collections around it. -/
  outer : List Int
  /-- Whether a key may begin here. -/
  keyAllowed : Bool
  /-- At most one pending key for each depth. -/
  pending : List (Nat × PendingKey)
  tokens : Array Token

namespace Lexer

def start (letters : List Char) : Lexer :=
  { cursor := .start letters, depth := 0, indent := -1, outer := [], keyAllowed := true
    pending := [], tokens := #[] }

def push (lexer : Lexer) (token : Token) : Lexer :=
  { lexer with tokens := lexer.tokens.push token }

/-- Adds a token, and moves to the place after it. -/
def emit (lexer : Lexer) (token : Token) (after : Cursor) : Lexer :=
  { lexer with tokens := lexer.tokens.push token, cursor := after }

/-- The longest key in characters. -/
def keyLimit : Nat := 1024

/-- Drops a pending key.  One that is required cannot be dropped. -/
def dropKey (lexer : Lexer) (isDropped : Nat × PendingKey → Bool) : Except Mishap Lexer :=
  if lexer.pending.any fun entry => isDropped entry && entry.2.required then malformed
  else .ok { lexer with pending := lexer.pending.filter fun entry => !isDropped entry }

/-- Drops the pending key of the current depth. -/
def dropCurrentKey (lexer : Lexer) : Except Mishap Lexer :=
  lexer.dropKey fun entry => entry.1 == lexer.depth

/-- A key stands on one line and is not too long. -/
def dropStaleKeys (lexer : Lexer) : Except Mishap Lexer :=
  lexer.dropKey fun entry =>
    entry.2.place.line != lexer.cursor.line ||
      keyLimit < lexer.cursor.index - entry.2.place.index

/-- Notes that the next token may begin a key. -/
def saveKey (lexer : Lexer) : Except Mishap Lexer :=
  if lexer.keyAllowed then do
    let lexer ← lexer.dropCurrentKey
    let key : PendingKey :=
      { token := lexer.tokens.size
        required := lexer.depth == 0 && lexer.indent == lexer.cursor.column
        place := lexer.cursor }
    return { lexer with pending := (lexer.depth, key) :: lexer.pending }
  else .ok lexer

/-- Closes the block collections that are indented deeper than a column. -/
def closeBlocks (lexer : Lexer) (column : Int) : Lexer :=
  if lexer.depth == 0 then go lexer lexer.indent lexer.outer else lexer
where
  go (lexer : Lexer) (indent : Int) : List Int → Lexer
    | [] => { lexer with indent, outer := [] }
    | enclosing :: outer =>
      if column < indent then go (lexer.push .blockEnd) enclosing outer
      else { lexer with indent, outer := enclosing :: outer }

/-- Opens a block collection at a column, if it is deeper than the innermost one. -/
def openBlock (lexer : Lexer) (column position : Nat) (token : Token) : Lexer :=
  if lexer.indent < column then
    { lexer with
      indent := column
      outer := lexer.indent :: lexer.outer
      tokens := lexer.tokens.insertIdxIfInBounds position token }
  else lexer

/-- Spaces, comments and line breaks up to the next token.  After a line break outside flow
collections a key may begin. -/
def skipBlanks : Nat → Lexer → Lexer
  | 0, lexer => lexer
  | steps + 1, lexer =>
    let afterSpaces := lexer.cursor.skip (· == ' ')
    let afterComment :=
      if afterSpaces.peek == some '#' then afterSpaces.skip fun letter => !isBreak letter
      else afterSpaces
    match afterComment.lineBreak? with
    | none => { lexer with cursor := afterComment }
    | some (_, after) =>
      skipBlanks steps
        { lexer with cursor := after, keyAllowed := lexer.keyAllowed || lexer.depth == 0 }

/-- The end of the text. -/
def finish (lexer : Lexer) : Except Mishap Lexer := do
  let lexer ← (lexer.closeBlocks (-1)).dropCurrentKey
  return { lexer.push .streamEnd with pending := [], keyAllowed := false }

def readDirective (lexer : Lexer) : Except Mishap Lexer := do
  let lexer ← (lexer.closeBlocks (-1)).dropCurrentKey
  let (token, after) ← Token.directiveAt lexer.cursor
  return { lexer.emit token after with keyAllowed := false }

/-- The mark of a document's start or end. -/
def readDocumentMark (lexer : Lexer) (token : Token) : Except Mishap Lexer := do
  let lexer ← (lexer.closeBlocks (-1)).dropCurrentKey
  return { lexer.emit token (lexer.cursor.advance 3) with keyAllowed := false }

def openFlow (lexer : Lexer) (token : Token) : Except Mishap Lexer := do
  let lexer ← lexer.saveKey
  return { lexer.emit token lexer.cursor.next with depth := lexer.depth + 1, keyAllowed := true }

def closeFlow (lexer : Lexer) (token : Token) : Except Mishap Lexer := do
  let lexer ← lexer.dropCurrentKey
  if lexer.depth == 0 then malformed
  else
    return { lexer.emit token lexer.cursor.next with
      depth := lexer.depth - 1, keyAllowed := false }

def readFlowEntry (lexer : Lexer) : Except Mishap Lexer := do
  let lexer ← lexer.dropCurrentKey
  return { lexer.emit .flowEntry lexer.cursor.next with keyAllowed := true }

/-- Opens a block collection at a mark outside flow collections, where a key could begin. -/
def openBlockHere (lexer : Lexer) (token : Token) : Except Mishap Lexer :=
  if lexer.depth != 0 then .ok lexer
  else if lexer.keyAllowed then
    .ok (lexer.openBlock lexer.cursor.column lexer.tokens.size token)
  else malformed

def readBlockEntry (lexer : Lexer) : Except Mishap Lexer := do
  let lexer ← lexer.openBlockHere .blockSequence
  let lexer ← lexer.dropCurrentKey
  return { lexer.emit .blockEntry lexer.cursor.next with keyAllowed := true }

/-- A question mark in front of a key. -/
def readKey (lexer : Lexer) : Except Mishap Lexer := do
  let lexer ← lexer.openBlockHere .blockMapping
  let lexer ← lexer.dropCurrentKey
  return { lexer.emit .key lexer.cursor.next with keyAllowed := lexer.depth == 0 }

/-- A colon, which makes what is pending at its depth a key. -/
def readValue (lexer : Lexer) : Except Mishap Lexer :=
  match lexer.pending.lookup lexer.depth with
  | some key =>
    let marked := { lexer with
      pending := lexer.pending.filter fun entry => entry.1 != lexer.depth
      tokens := lexer.tokens.insertIdxIfInBounds key.token .key }
    let opened :=
      if lexer.depth == 0 then marked.openBlock key.place.column key.token .blockMapping
      else marked
    .ok { opened.emit .value lexer.cursor.next with keyAllowed := false }
  | none => do
    let lexer ← lexer.openBlockHere .blockMapping
    return { lexer.emit .value lexer.cursor.next with keyAllowed := lexer.depth == 0 }

/-- A token that may begin a key and is followed by no other key. -/
def readWord (lexer : Lexer) (read : Cursor → Except Mishap (Token × Cursor)) :
    Except Mishap Lexer := do
  let lexer ← lexer.saveKey
  let (token, after) ← read lexer.cursor
  return { lexer.emit token after with keyAllowed := false }

def readAnchor (build : String → Token) (cursor : Cursor) : Except Mishap (Token × Cursor) := do
  let (name, after) ← Token.anchorName cursor.next
  return (build name, after)

def readQuoted (mark : Char) (cursor : Cursor) : Except Mishap (Token × Cursor) := do
  let (codes, after) ← quotedScalar mark cursor
  return (.scalar false codes, after)

def readBlockScalar (lexer : Lexer) (folded : Bool) : Except Mishap Lexer := do
  let lexer ← lexer.dropCurrentKey
  let (letters, after) ← blockScalar folded lexer.indent lexer.cursor
  return { lexer.emit (.scalar false (letters.map Char.toNat)) after with keyAllowed := true }

def readPlain (lexer : Lexer) : Except Mishap Lexer := do
  let lexer ← lexer.saveKey
  let (letters, broken, after) := plainScalar (lexer.depth != 0) (lexer.indent + 1) lexer.cursor
  return { lexer.emit (.scalar true (letters.map Char.toNat)) after with keyAllowed := broken }

/-- The characters that begin something other than a plain text. -/
def isIndicator (letter : Char) : Bool :=
  "-?:,[]\x7b\x7d#&*!|>'\"%@".toList.contains letter || letter.toNat == 0x60

/-- Whether a plain text begins here. -/
def startsPlain (lexer : Lexer) (letter : Char) : Bool :=
  !(Cursor.endsWord (some letter) || isIndicator letter) ||
    (!Cursor.endsWord lexer.cursor.peekSecond &&
      (letter == '-' || (lexer.depth == 0 && (letter == '?' || letter == ':'))))

/-- Reads the token that begins with a letter. -/
def readToken (lexer : Lexer) (letter : Char) : Except Mishap Lexer :=
  let inFlow := lexer.depth != 0
  let atWordEnd := Cursor.endsWord lexer.cursor.peekSecond
  let atLineStart := lexer.cursor.column == 0
  if letter == '%' && atLineStart then lexer.readDirective
  else if atLineStart && lexer.cursor.atTriple '-' then lexer.readDocumentMark .documentStart
  else if atLineStart && lexer.cursor.atTriple '.' then lexer.readDocumentMark .documentEnd
  else if letter == '[' then lexer.openFlow .flowSequence
  else if letter == '\x7b' then lexer.openFlow .flowMapping
  else if letter == ']' then lexer.closeFlow .flowSequenceEnd
  else if letter == '\x7d' then lexer.closeFlow .flowMappingEnd
  else if letter == ',' then lexer.readFlowEntry
  else if letter == '-' && atWordEnd then lexer.readBlockEntry
  else if letter == '?' && (inFlow || atWordEnd) then lexer.readKey
  else if letter == ':' && (inFlow || atWordEnd) then lexer.readValue
  else if letter == '*' then lexer.readWord (readAnchor .reference)
  else if letter == '&' then lexer.readWord (readAnchor .anchor)
  else if letter == '!' then lexer.readWord Token.tagAt
  else if letter == '|' && !inFlow then lexer.readBlockScalar false
  else if letter == '>' && !inFlow then lexer.readBlockScalar true
  else if letter == '\'' || letter == '"' then lexer.readWord (readQuoted letter)
  else if lexer.startsPlain letter then lexer.readPlain
  else malformed

/-- Moves to the next token and reads it. -/
def step (lexer : Lexer) : Except Mishap Lexer := do
  let blanks := lexer.skipBlanks (lexer.cursor.rest.length + 1)
  let lexer ← blanks.dropStaleKeys
  let lexer := lexer.closeBlocks lexer.cursor.column
  match lexer.cursor.peek with
  | none => lexer.finish
  | some letter => lexer.readToken letter

/-- The tokens up to a failure.  Those from the first pending key on are not settled yet. -/
def settled (lexer : Lexer) (mishap : Mishap) : List Token :=
  let count := lexer.pending.foldl (fun least entry => min least entry.2.token) lexer.tokens.size
  lexer.tokens.toList.take count ++ [.failure mishap]

/-- Reads tokens up to the end of the text.  The first argument bounds their number. -/
def run : Nat → Lexer → List Token
  | 0, lexer => lexer.settled .malformedYaml
  | steps + 1, lexer =>
    if lexer.tokens.back? == some .streamEnd then lexer.tokens.toList
    else
      match lexer.step with
      | .ok next => run steps next
      | .error mishap => lexer.settled mishap

end Lexer

/-- The characters that a text may hold. -/
def isAcceptable (letter : Char) : Bool :=
  let code := letter.toNat
  code == 9 || code == 10 || code == 13 || (0x20 ≤ code && code ≤ 0x7E) || code == 0x85 ||
    (0xA0 ≤ code && code ≤ 0xD7FF) || (0xE000 ≤ code && code ≤ 0xFFFD) || 0x10000 ≤ code

/-- The tokens of a text.  A byte order mark at its start is skipped. -/
def Token.ofText (text : String) : List Token :=
  let letters := text.toList
  if letters.all isAcceptable then
    let lexer := Lexer.start letters
    let lexer :=
      if letters.head? == some byteOrderMark then { lexer with cursor := lexer.cursor.next }
      else lexer
    lexer.run (letters.length + 2)
  else [.failure .malformedYaml]

end Typeface.Yaml
