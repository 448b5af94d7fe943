/-!
# Weight codes of documents

Documents have an enumeration of weights of their own.  It agrees code by code
with the weights of descriptors, but only the conversion between the two says so.
-/

namespace Typeface.Document

inductive Weight
  | thin
  | extraLight
  | light
  | regular
  | medium
  | semiBold
  | bold
  | extraBold
  | heavy
deriving DecidableEq, Repr

namespace Weight

def all : List Weight :=
  [thin, extraLight, light, regular, medium, semiBold, bold, extraBold, heavy]

def code : Weight → Nat
  | thin => 100
  | extraLight => 200
  | light => 300
  | regular => 400
  | medium => 500
  | semiBold => 600
  | bold => 700
  | extraBold => 800
  | heavy => 900

/-- The identifier that quoted forms show. -/
def identifier : Weight → String
  | thin => "THIN"
  | extraLight => "EXTRA_LIGHT"
  | light => "LIGHT"
  | regular => "REGULAR"
  | medium => "MEDIUM"
  | semiBold => "SEMI_BOLD"
  | bold => "BOLD"
  | extraBold => "EXTRA_BOLD"
  | heavy => "HEAVY"

def ofCode? (code : Int) : Option Weight :=
  all.find? fun weight => (weight.code : Int) == code

def ofIdentifier? (identifier : String) : Option Weight :=
  all.find? fun weight => weight.identifier == identifier

theorem ofCode?_code (weight : Weight) : ofCode? weight.code = some weight := by
  cases weight <;> rfl

end Weight

end Typeface.Document
