/-!
# Font weights

The nine named weights and their numeric codes.
-/

namespace Typeface

inductive Weight
  | thin
  | extraLight
  | light
  | regular
  | medium
  | semiBold
  | bold
  | extraBold
  | heavy
deriving DecidableEq, Repr

namespace Weight

/-- All weights, the lightest first. -/
def all : List Weight :=
  [thin, extraLight, light, regular, medium, semiBold, bold, extraBold, heavy]

def code : Weight → Nat
  | thin => 100
  | extraLight => 200
  | light => 300
  | regular => 400
  | medium => 500
  | semiBold => 600
  | bold => 700
  | extraBold => 800
  | heavy => 900

/-- The canonical name. -/
def name : Weight → String
  | thin => "Thin"
  | extraLight => "ExtraLight"
  | light => "Light"
  | regular => "Regular"
  | medium => "Medium"
  | semiBold => "SemiBold"
  | bold => "Bold"
  | extraBold => "ExtraBold"
  | heavy => "Heavy"

/-- The identifier that quoted forms show. -/
def identifier : Weight → String
  | thin => "THIN"
  | extraLight => "EXTRA_LIGHT"
  | light => "LIGHT"
  | regular => "REGULAR"
  | medium => "MEDIUM"
  | semiBold => "SEMI_BOLD"
  | bold => "BOLD"
  | extraBold => "EXTRA_BOLD"
  | heavy => "HEAVY"

def ofCode? (code : Int) : Option Weight :=
  all.find? fun weight => (weight.code : Int) == code

/-- Names match exactly, case included. -/
def ofName? (name : String) : Option Weight :=
  all.find? fun weight => weight.name == name

def ofIdentifier? (identifier : String) : Option Weight :=
  all.find? fun weight => weight.identifier == identifier

/-- Semi-bold and every heavier weight read as bold. -/
def isBold (weight : Weight) : Bool :=
  600 ≤ weight.code

theorem mem_all (weight : Weight) : weight ∈ all := by
  cases weight <;> decide

theorem ofCode?_code (weight : Weight) : ofCode? weight.code = some weight := by
  cases weight <;> rfl

theorem ofName?_name (weight : Weight) : ofName? weight.name = some weight := by
  cases weight <;> rfl

end Weight

end Typeface
