/-!
# Font styles

The two named styles and their numeric codes.
-/

namespace Typeface

inductive Style
  | normal
  | italic
deriving DecidableEq, Repr

namespace Style

def all : List Style := [normal, italic]

def code : Style → Nat
  | normal => 0
  | italic => 1

/-- The canonical name. -/
def name : Style → String
  | normal => "Normal"
  | italic => "Italic"

/-- The identifier that quoted forms show. -/
def identifier : Style → String
  | normal => "NORMAL"
  | italic => "ITALIC"

def ofCode? (code : Int) : Option Style :=
  all.find? fun style => (style.code : Int) == code

/-- Names match exactly, case included. -/
def ofName? (name : String) : Option Style :=
  all.find? fun style => style.name == name

def ofIdentifier? (identifier : String) : Option Style :=
  all.find? fun style => style.identifier == identifier

theorem mem_all (style : Style) : style ∈ all := by
  cases style <;> decide

theorem ofCode?_code (style : Style) : ofCode? style.code = some style := by
  cases style <;> rfl

theorem ofName?_name (style : Style) : ofName? style.name = some style := by
  cases style <;> rfl

end Style

end Typeface
