import Typeface.Descriptor
import Typeface.Log

/-!
# Font catalogs

A catalog is an ordered table of distinct names.  A name has a mapping to a
family, a weight and a style, or is reserved and has none; a reserved name is
contained in the catalog and resolves like a name that is absent.
-/

namespace Typeface

open Value

/-- What a name stands for.  The parts are checked when the name is resolved. -/
structure Mapping where
  family : Value
  weight : Value
  style : Value
deriving Repr

structure Entry where
  name : Value
  mapping : Option Mapping
deriving Repr

structure Catalog where
  entries : List Entry
deriving Repr

namespace Catalog

/-- Keeps the first of equal values. -/
def distinct : List Value → List Value
  | [] => []
  | value :: rest => value :: (distinct rest).filter fun other => !equal value other

/-- The values that occur more than once, each at its first occurrence. -/
def repeated (values : List Value) : List Value :=
  (distinct values).filter fun value => 1 < values.countP (equal value)

def names (catalog : Catalog) : List Value :=
  catalog.entries.map Entry.name

/-- The names that have a mapping. -/
def mappedNames (catalog : Catalog) : List Value :=
  (catalog.entries.filter fun entry => entry.mapping.isSome).map Entry.name

def size (catalog : Catalog) : Nat :=
  catalog.entries.length

def source : String := "fontident.fonts.catalog"

/-- The record of a new catalog. -/
def builtRecord (catalog : Catalog) : LogRecord :=
  let entries := Number.decimal catalog.size
  let mapped := Number.decimal catalog.mappedNames.length
  { severity := .debug
    source := source
    message := s!"Legacy font catalog built with {entries} entries ({mapped} mapped)" }

/-- A catalog from a table, which must not name anything twice. -/
def ofEntries (entries : List Entry) : Except Failure Catalog × Log :=
  let catalog : Catalog := { entries }
  if !areKeys catalog.names then (Failure.ofMishap .wrongArgument, [])
  else
    match repeated catalog.names with
    | [] => (.ok catalog, [catalog.builtRecord])
    | duplicates => (Failure.raise (.catalogIntegrity (.list duplicates)), [])

/-- The mapping of the first entry that has the name and a mapping. -/
def mapping? (catalog : Catalog) (name : Value) : Option Mapping :=
  catalog.entries.findSome? fun entry => if equal entry.name name then entry.mapping else none

def resolve (catalog : Catalog) (name : Value) : Except Failure Descriptor :=
  match catalog.mapping? name with
  | some mapping => Descriptor.make mapping.family mapping.weight mapping.style
  | none => Failure.raise (.fontNotFound name (.text "Font"))

/-- Resolves a name, or gives the default where it has no mapping. -/
def get (catalog : Catalog) (name fallback : Value) : Except Failure Value :=
  match catalog.resolve name with
  | .ok found => .ok found.value
  | .error (.fault (.fontNotFound ..)) => .ok fallback
  | .error failure => .error failure

def contains (catalog : Catalog) (name : Value) : Bool :=
  catalog.names.any fun known => equal known name

/-- The catalog by its size. -/
def summary (catalog : Catalog) : String :=
  s!"LegacyFontCatalog({Number.decimal catalog.size} entries)"

end Catalog

end Typeface
