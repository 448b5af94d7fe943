import Typeface.Arguments
import Typeface.Catalog.Legacy
import Typeface.Conversion

/-!
# Stores of descriptors

Programs hold descriptors in named slots.  A slot refers to a descriptor by its
place among all that were made, so a write through one slot shows in every slot
that refers to the same place.  A `Step` makes a descriptor, copies, reads,
writes or compares one.
-/

namespace Typeface

structure Store where
  /-- The descriptors in the order in which they were made, as they are now. -/
  made : List Descriptor
  /-- Where among these the slots find theirs, each slot once. -/
  places : List (String × Nat)
deriving Repr

namespace Store

def place? (store : Store) (slot : String) : Option Nat :=
  store.places.lookup slot

def find (store : Store) (slot : String) : Except Failure Descriptor :=
  match (store.place? slot).bind fun place => store.made[place]? with
  | some descriptor => .ok descriptor
  | none => Failure.ofMishap .noSuchEntry

/-- The slots with the descriptors that they refer to. -/
def slots (store : Store) : List (String × Descriptor) :=
  store.places.filterMap fun entry =>
    store.made[entry.2]?.map fun descriptor => (entry.1, descriptor)

def empty : Store := { made := [], places := [] }

/-- Makes a slot refer to a new descriptor. -/
def put (store : Store) (slot : String) (descriptor : Descriptor) : Store :=
  { made := store.made ++ [descriptor]
    places := (slot, store.made.length) :: store.places.filter fun entry => entry.1 != slot }

/-- Changes the descriptor that a slot refers to, in its place. -/
def amend (store : Store) (slot : String) (descriptor : Descriptor) : Store :=
  match store.place? slot with
  | some place => { store with made := store.made.set place descriptor }
  | none => store

/-- The ways to make a descriptor from arguments. -/
inductive Origin
  | parts
  | legacy
  | shortName
  | asset
deriving DecidableEq, Repr

/-- What a descriptor is compared with. -/
inductive Operand
  | slot (name : String)
  | value (value : Value)
deriving Repr

inductive Step
  | make (slot : String) (origin : Origin) (arguments : Arguments)
  | copy (slot target : String)
  | write (slot field : String) (value : Value)
  | read (slot field : String)
  | describe (slot : String)
  | compare (slot : String) (operand : Operand)
  | hash (slot : String)
  | roundTrip (slot : String)

/-- What a step answers. -/
inductive Answer
  | done
  | value (value : Value)
  | copied (descriptor : Descriptor)
  | compared (equal : Bool)
  | roundTrip (font : Document.Font) (same : Bool)

/-- Weight and style have defaults in every way of making. -/
def appearance : List Parameter :=
  [{ name := "weight", standIn := some Descriptor.defaultWeight },
    { name := "style", standIn := some Descriptor.defaultStyle }]

def Origin.make (origin : Origin) (arguments : Arguments) : Except Failure Descriptor :=
  match origin with
  | .parts =>
    match arguments.bind? ({ name := "family" } :: appearance) with
    | some [family, weight, style] => Descriptor.make family weight style
    | _ => Failure.ofMishap .wrongArgument
  | .legacy =>
    match arguments.bind? [{ name := "item" }] with
    | some [given] => Descriptor.ofLegacy given
    | _ => Failure.ofMishap .wrongArgument
  | .shortName =>
    match arguments.bind? ({ name := "name" } :: appearance) with
    | some [short, weight, style] => Descriptor.ofName short weight style
    | _ => Failure.ofMishap .wrongArgument
  | .asset =>
    match arguments.bind? ({ name := "asset_id" } :: appearance) with
    | some [number, weight, style] => Descriptor.ofAsset number weight style
    | _ => Failure.ofMishap .wrongArgument

def valueOf (store : Store) : Operand → Except Failure Value
  | .slot name => do
    let descriptor ← store.find name
    return descriptor.value
  | .value given => .ok given

def fieldOf (name : String) : Except Failure Descriptor.Field :=
  match Descriptor.Field.ofName? name with
  | some field => .ok field
  | none => Failure.ofMishap .noSuchAttribute

/-- Makes a slot refer to what was made for it, if it was made. -/
def assign (store : Store) (slot : String) (made : Except Failure Descriptor)
    (answer : Descriptor → Answer) : Except Failure Answer × Store :=
  match made with
  | .ok descriptor => (.ok (answer descriptor), store.put slot descriptor)
  | .error failure => (.error failure, store)

/-- Writes a field of the descriptor of a slot, which is then as the writer leaves it. -/
def write (store : Store) (slot field : String) (given : Value) : Except Failure Answer × Store :=
  match store.find slot, fieldOf field with
  | .error failure, _ => (.error failure, store)
  | .ok _, .error failure => (.error failure, store)
  | .ok descriptor, .ok field =>
    let written := descriptor.write field given
    (written.1.map fun _ => .done, store.amend slot written.2)

def read (store : Store) (slot field : String) : Except Failure Answer := do
  let descriptor ← store.find slot
  let field ← fieldOf field
  return .value (descriptor.get field)

def describe (store : Store) (slot : String) : Except Failure Answer := do
  let descriptor ← store.find slot
  return .value descriptor.toMapping

def compare (store : Store) (slot : String) (operand : Operand) : Except Failure Answer := do
  let descriptor ← store.find slot
  let other ← store.valueOf operand
  return .compared (Value.equal descriptor.value other)

/-- Descriptors may change, so they have no hash. -/
def hash (store : Store) (slot : String) : Except Failure Answer := do
  let _ ← store.find slot
  Failure.ofMishap .wrongArgument

def roundTrip (store : Store) (slot : String) : Except Failure Answer := do
  let descriptor ← store.find slot
  let font ← (Conversion.toDocument descriptor).1
  let back ← (Conversion.ofDocument font.raw).1
  return .roundTrip font (Value.equal back.value descriptor.value)

/-- One step: its answer, and the slots after it. -/
def step (store : Store) : Step → Except Failure Answer × Store
  | .make slot origin arguments => store.assign slot (origin.make arguments) fun _ => .done
  | .copy slot target => store.assign target ((store.find slot).bind Descriptor.copy) .copied
  | .write slot field value => store.write slot field value
  | .read slot field => (store.read slot field, store)
  | .describe slot => (store.describe slot, store)
  | .compare slot operand => (store.compare slot operand, store)
  | .hash slot => (store.hash slot, store)
  | .roundTrip slot => (store.roundTrip slot, store)

/-- The answers of steps in a row, each with the slots after it. -/
def run (store : Store) : List Step → List (Except Failure Answer × Store)
  | [] => []
  | next :: rest =>
    let outcome := store.step next
    outcome :: run outcome.2 rest

end Store

end Typeface
