import Typeface.Value

/-!
# Equality of values

Numbers compare by what they count, whatever their sort: truth values count as
one and zero, and the codes of documents as themselves.  Weights, styles and
vocabularies equal only themselves.  `isKey` says which values can key a mapping.
-/

namespace Typeface.Value

open Typeface.Number

/-- A value as a number, exact or floating. -/
def numeric? : Value → Option (Sum Int Binary64)
  | bool value => some (.inl (if value then 1 else 0))
  | int value => some (.inl value)
  | documentWeight value => some (.inl value.code)
  | documentStyle value => some (.inl value.code)
  | float value => some (.inr value)
  | _ => none

def equalNumbers : Sum Int Binary64 → Sum Int Binary64 → Bool
  | .inl left, .inl right => left == right
  | .inl left, .inr right => right.toInt? == some left
  | .inr left, .inl right => left.toInt? == some right
  | .inr left, .inr right => left.equal right

mutual

def equal : Value → Value → Bool
  | null, null => true
  | text left, text right => left == right
  | brokenText left, brokenText right => left == right
  | bytes left, bytes right => left == right
  | timestamp left, timestamp right => left == right
  | weight left, weight right => left == right
  | style left, style right => left == right
  | vocabulary left, vocabulary right => left == right
  | asset left, asset right => left == right
  | release left, release right => left == right
  | list left, list right => equalItems left right
  | tuple left, tuple right => equalItems left right
  | set left, set right => left.length == right.length && allWithin left right
  | dict left, dict right => left.length == right.length && entriesWithin left right
  | item owner name, item owner' name' => equal owner owner' && equal name name'
  | descriptor family heft slant, descriptor family' heft' slant' =>
    equal family family' && heft == heft' && slant == slant'
  | left, right =>
    match numeric? left, numeric? right with
    | some left, some right => equalNumbers left right
    | _, _ => false

def equalItems : List Value → List Value → Bool
  | [], [] => true
  | left :: lefts, right :: rights => equal left right && equalItems lefts rights
  | _, _ => false

/-- Each item of the first list equals one of the second. -/
def allWithin : List Value → List Value → Bool
  | [], _ => true
  | left :: lefts, rights => rights.any (fun right => equal left right) && allWithin lefts rights

/-- Each entry of the first list has an equal one in the second. -/
def entriesWithin : List (Value × Value) → List (Value × Value) → Bool
  | [], _ => true
  | (key, value) :: lefts, rights =>
    rights.any (fun entry => equal key entry.1 && equal value entry.2) && entriesWithin lefts rights

end

mutual

/-- Whether a mapping can have the value as a key: nothing in it may be changed in place. -/
def isKey : Value → Bool
  | list _ => false
  | set _ => false
  | dict _ => false
  | descriptor .. => false
  | asset _ => false
  | release _ => false
  | tuple items => areKeys items
  | item owner name => isKey owner && isKey name
  | _ => true

def areKeys : List Value → Bool
  | [] => true
  | value :: rest => isKey value && areKeys rest

end

/-- Adds an entry to a mapping: a key that is there already keeps its place and gets the value. -/
def insertEntry (key value : Value) : List (Value × Value) → List (Value × Value)
  | [] => [(key, value)]
  | entry :: rest =>
    if equal entry.1 key then (entry.1, value) :: rest
    else entry :: insertEntry key value rest

/-- A mapping from entries in order, the last value of a key counting. -/
def ofEntries (entries : List (Value × Value)) : Value :=
  dict (entries.foldl (fun known entry => insertEntry entry.1 entry.2 known) [])

def find? (key : Value) (entries : List (Value × Value)) : Option Value :=
  (entries.find? fun entry => equal entry.1 key).map (·.2)

/-- The value under a text key. -/
def field? (name : String) (entries : List (Value × Value)) : Option Value :=
  find? (text name) entries

end Typeface.Value
