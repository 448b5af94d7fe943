/-!
# Vocabularies

The closed families of names that a tagged item can be drawn from.
-/

namespace Typeface

inductive Vocabulary
  | legacyFont
  | weightScale
  | styleKind
deriving DecidableEq, Repr

namespace Vocabulary

def all : List Vocabulary := [legacyFont, weightScale, styleKind]

def title : Vocabulary → String
  | legacyFont => "LegacyFont"
  | weightScale => "WeightScale"
  | styleKind => "StyleKind"

/-- The identifier that quoted forms show. -/
def identifier : Vocabulary → String
  | legacyFont => "LEGACY_FONT"
  | weightScale => "WEIGHT_SCALE"
  | styleKind => "STYLE_KIND"

def ofTitle? (title : String) : Option Vocabulary :=
  all.find? fun vocabulary => vocabulary.title == title

def ofIdentifier? (identifier : String) : Option Vocabulary :=
  all.find? fun vocabulary => vocabulary.identifier == identifier

end Vocabulary

end Typeface
