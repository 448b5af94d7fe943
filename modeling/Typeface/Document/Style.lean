/-!
# Style codes of documents

Documents have an enumeration of styles of their own, beside the styles of
descriptors.
-/

namespace Typeface.Document

inductive Style
  | normal
  | italic
deriving DecidableEq, Repr

namespace Style

def all : List Style := [normal, italic]

def code : Style → Nat
  | normal => 0
  | italic => 1

/-- The identifier that quoted forms show. -/
def identifier : Style → String
  | normal => "NORMAL"
  | italic => "ITALIC"

def ofCode? (code : Int) : Option Style :=
  all.find? fun style => (style.code : Int) == code

def ofIdentifier? (identifier : String) : Option Style :=
  all.find? fun style => style.identifier == identifier

theorem ofCode?_code (style : Style) : ofCode? style.code = some style := by
  cases style <;> rfl

end Style

end Typeface.Document
