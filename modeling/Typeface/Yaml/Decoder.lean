import Typeface.Text.Base64
import Typeface.Value.Equality
import Typeface.Yaml.Node
import Typeface.Yaml.Token.Lexer

/-!
# Decoding of YAML

`decode` reads the one document of a text into a value.  A document whose form
is right can still fail, since a tag may be unknown, or a text not spell a value
of its type.  Collections are built level by level, so that of several defects
the outermost counts, and the first one on its level.
-/

namespace Typeface.Yaml

open Typeface.Number
open Typeface.Text

/-- A defect and how deep it lies. -/
structure Flaw where
  depth : Nat
  mishap : Mishap

abbrev Built (α : Type) := Except Flaw α

namespace Built

def fail {α : Type} (depth : Nat) (mishap : Mishap) : Built α :=
  .error { depth, mishap }

/-- Both parts, or the outermost flaw. -/
def both {α β : Type} (left : Built α) (right : Built β) : Built (α × β) :=
  match left, right with
  | .ok left, .ok right => .ok (left, right)
  | .error flaw, .ok _ => .error flaw
  | .ok _, .error flaw => .error flaw
  | .error earlier, .error later =>
    if later.depth < earlier.depth then .error later else .error earlier

end Built

/-- An integer in a base; the mark of the base may be in front of it. -/
def integerOfBase? (base : Nat) (mark : Char) (letters : List Char) : Option Int :=
  let (negative, unsigned) := splitSign (trim isBlank letters)
  let digits := match unsigned with
    | '0' :: letter :: rest => if lowerAscii letter == mark then rest else unsigned
    | _ => unsigned
  let values := digits.mapM fun letter =>
    ((hexDigit? letter).orElse fun _ => digitValue? letter).filter (· < base)
  match values with
  | none | some [] => none
  | some values => some (signed negative (ofDigits base values))

/-- The value of parts between colons, to the base sixty. -/
def ofSixtieths (parts : List Int) : Int :=
  parts.foldl (fun value part => value * 60 + part) 0

def orWrong {α : Type} : Option α → Except Mishap α
  | some value => .ok value
  | none => .error .wrongValue

/-- The sign in front of a number without underscores, which must not be empty after it. -/
def signOf (letters : List Char) : Except Mishap (Bool × List Char) :=
  if letters.isEmpty then .error .noSuchIndex else .ok (splitSign letters)

def plainInteger (letters : List Char) : Except Mishap Int :=
  orWrong (plainInteger? (String.ofList letters))

def integer (letters : List Char) : Except Mishap Int := do
  let (negative, unsigned) ← signOf (letters.filter (· != '_'))
  let magnitude ← match unsigned with
    | [] => Except.error Mishap.noSuchIndex
    | ['0'] => .ok 0
    | '0' :: 'b' :: digits => orWrong (integerOfBase? 2 'b' digits)
    | '0' :: 'x' :: digits => orWrong (integerOfBase? 16 'x' digits)
    | '0' :: _ => orWrong (integerOfBase? 8 'o' unsigned)
    | _ =>
      if unsigned.contains ':' then do
        let parts ← (Form.splitColons unsigned).mapM plainInteger
        return ofSixtieths parts
      else plainInteger unsigned
  return if negative then -magnitude else magnitude

/-- A digit of any script in ASCII. -/
def asciiDigit (letter : Char) : Char :=
  ((digitValue? letter).map hexDigit).getD letter

def plainFloat (letters : List Char) : Except Mishap Binary64 :=
  orWrong (floatNumeral? ((trim isBlank letters).map asciiDigit))

/-- The sum of parts, the last one whole and each one before it sixty times as much. -/
def sumSixtieths : Nat → List Binary64 → Binary64
  | _, [] => .zero
  | scale, part :: rest =>
    rest.foldl (fun (state : Nat × Binary64) next =>
      (state.1 * 60, state.2.add (next.times (state.1 * 60)))) (scale, part.times scale) |>.2

def float (letters : List Char) : Except Mishap Binary64 := do
  let (negative, unsigned) ← signOf ((letters.filter (· != '_')).map lowerAscii)
  let magnitude ← match String.ofList unsigned with
    | ".inf" => Except.ok (Binary64.infinite false)
    | ".nan" => .ok .nan
    | _ =>
      if unsigned.contains ':' then do
        let parts ← (Form.splitColons unsigned).mapM plainFloat
        return sumSixtieths 1 parts.reverse
      else plainFloat unsigned
  return if negative then magnitude.negate else magnitude

def truth (letters : List Char) : Except Mishap Bool :=
  let word := String.ofList (letters.map lowerAscii)
  if Form.trueWords.contains word then .ok true
  else if Form.falseWords.contains word then .ok false
  else .error .noSuchEntry

def moment (letters : List Char) : Except Mishap Timestamp :=
  match Written.ofLetters? letters with
  | none => .error .noSuchAttribute
  | some written => orWrong written.timestamp?

def binary (letters : List Char) : Except Mishap Bytes :=
  if letters.all fun letter => letter.toNat < 0x80 then
    match base64? letters with
    | some bytes => .ok bytes
    | none => malformed
  else malformed

/-- The value of a text with a tag. -/
def scalarValue (tag : Tag) (codes : List Nat) : Except Mishap Value :=
  let letters := codes.map Char.ofNat
  match tag with
  | .null => .ok .null
  | .text => .ok (Value.ofCodes codes)
  | .bool => (truth letters).map .bool
  | .int => (integer letters).map .int
  | .float => (float letters).map .float
  | .timestamp => (moment letters).map .timestamp
  | .binary => (binary letters).map .bytes
  | _ => malformed

namespace Node

/-- Whether a node is the key for entries to be taken over. -/
def isMerge : Node → Bool
  | scalar .merge _ | sequence .merge _ | mapping .merge _ => true
  | _ => false

/-- Whether a node is the key of the value that stands for its mapping. -/
def isStandIn : Node → Bool
  | scalar .standIn _ | sequence .standIn _ | mapping .standIn _ => true
  | _ => false

/-- A key as such: the mark of a value that stands in is a mere text here. -/
def plainKey : Node → Node
  | scalar .standIn codes => scalar .text codes
  | node => node

mutual

/-- The entries of a mapping, those taken over first.  The first argument bounds the depth. -/
def flatten : Nat → List (Node × Node) → Except Mishap (List (Node × Node))
  | 0, _ => malformed
  | steps + 1, entries => do
    let taken ← takenOver steps (entries.filter fun entry => entry.1.isMerge)
    let own := (entries.filter fun entry => !entry.1.isMerge).map fun entry =>
      (entry.1.plainKey, entry.2)
    return taken ++ own

/-- The entries that keys for merging take over.  Of several mappings the last comes first. -/
def takenOver : Nat → List (Node × Node) → Except Mishap (List (Node × Node))
  | 0, _ => malformed
  | _, [] => .ok []
  | steps + 1, (_, source) :: rest => do
    let entries ← match source with
      | mapping _ entries => flatten steps entries
      | sequence _ items => flattenAll steps items
      | scalar .. => malformed
    let others ← takenOver steps rest
    return entries ++ others

def flattenAll : Nat → List Node → Except Mishap (List (Node × Node))
  | 0, _ => malformed
  | _, [] => .ok []
  | steps + 1, mapping _ entries :: rest => do
    let first ← flatten steps entries
    let others ← flattenAll steps rest
    return others ++ first
  | _, _ :: _ => malformed

end

mutual

/-- How many steps a walk over a node takes. -/
def size : Node → Nat
  | scalar .. => 1
  | sequence _ items => 1 + sizes items
  | mapping _ entries => 1 + entrySizes entries

def sizes : List Node → Nat
  | [] => 1
  | node :: rest => 1 + size node + sizes rest

def entrySizes : List (Node × Node) → Nat
  | [] => 1
  | (key, content) :: rest => 1 + size key + size content + entrySizes rest

end

/-- The text that stands for a node where its tag calls for a text. -/
def standInText? : Nat → Node → Option (List Nat)
  | _, scalar _ codes => some codes
  | steps + 1, mapping _ entries =>
    match entries.find? fun entry => entry.1.isStandIn with
    | some entry => standInText? steps entry.2
    | none => none
  | _, _ => none

mutual

/-- The value of a node at a depth.  Collections lie one level deeper than their place.  The
first argument bounds the walk. -/
def value : Nat → Nat → Node → Built Value
  | 0, depth, _ => Built.fail depth .malformedYaml
  | steps + 1, depth, node =>
    match node with
    | scalar tag codes =>
      match tag with
      | .list | .mapping | .set | .pairs => Built.fail (depth + 1) .malformedYaml
      | _ =>
        match scalarValue tag codes with
        | .ok result => .ok result
        | .error mishap => Built.fail depth mishap
    | sequence tag items =>
      match tag with
      | .list => (values steps (depth + 1) items).map .list
      | .pairs => (pairs steps (depth + 1) items).map .list
      | .mapping | .set => Built.fail (depth + 1) .malformedYaml
      | _ => Built.fail depth .malformedYaml
    | mapping tag entries =>
      match tag with
      | .mapping => (flatEntries steps (depth + 1) entries).map Value.ofEntries
      | .set =>
        (flatEntries steps (depth + 1) entries).map fun entries =>
          match Value.ofEntries entries with
          | .dict distinct => .set (distinct.map (·.1))
          | other => other
      | .list | .pairs => Built.fail (depth + 1) .malformedYaml
      | _ =>
        match standInText? steps node with
        | none => Built.fail depth .malformedYaml
        | some codes =>
          match scalarValue tag codes with
          | .ok result => .ok result
          | .error mishap => Built.fail depth mishap

def values : Nat → Nat → List Node → Built (List Value)
  | 0, depth, _ => Built.fail depth .malformedYaml
  | _, _, [] => .ok []
  | steps + 1, depth, node :: rest =>
    (Built.both (value steps depth node) (values steps depth rest)).map fun found =>
      found.1 :: found.2

/-- The pairs of a list whose items are mappings of one entry. -/
def pairs : Nat → Nat → List Node → Built (List Value)
  | 0, depth, _ => Built.fail depth .malformedYaml
  | _, _, [] => .ok []
  | steps + 1, depth, mapping _ [(key, content)] :: rest =>
    (Built.both (Built.both (value steps depth key) (value steps depth content))
      (pairs steps depth rest)).map fun found =>
        .tuple [found.1.1, found.1.2] :: found.2
  | _, depth, _ :: _ => Built.fail depth .malformedYaml

/-- The entries of a mapping after merging. -/
def flatEntries : Nat → Nat → List (Node × Node) → Built (List (Value × Value))
  | 0, depth, _ => Built.fail depth .malformedYaml
  | steps + 1, depth, given =>
    match flatten (steps + 1) given with
    | .error mishap => Built.fail depth mishap
    | .ok flat => entries steps depth flat

/-- Entries in order.  Keys must be values that never change, which no collection is. -/
def entries : Nat → Nat → List (Node × Node) → Built (List (Value × Value))
  | 0, depth, _ => Built.fail depth .malformedYaml
  | _, _, [] => .ok []
  | steps + 1, depth, (key, content) :: rest =>
    let first := match value steps depth key with
      | .ok known => if known.isKey then .ok known else Built.fail depth .malformedYaml
      | .error flaw =>
        if depth < flaw.depth then Built.fail depth .malformedYaml else .error flaw
    (Built.both (Built.both first (value steps depth content))
      (entries steps depth rest)).map fun found =>
        (found.1.1, found.1.2) :: found.2

end

end Node

/-- The value of a text in which collections nest no deeper than given; a text without a document
has none to speak of. -/
def decode (depth : Nat) (text : String) : Except Mishap Value := do
  match ← Node.ofTokens depth (Token.ofText text) with
  | none => return .null
  | some root =>
    match root.value (2 * root.size + 2) 0 with
    | .ok result => .ok result
    | .error flaw => .error flaw.mishap

end Typeface.Yaml
