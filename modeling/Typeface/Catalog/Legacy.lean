import Typeface.Catalog

/-!
# The legacy fonts

The table of the legacy font names that programs may still use, and the
resolution of such a name into a descriptor.  One name is reserved: it is in
the table and has no mapping.
-/

namespace Typeface

open Value

namespace Catalog

/-- A legacy name that stands for a built-in family. -/
def builtIn (name family : String) (weight : Weight) (style : Style) : Entry :=
  { name := .text name
    mapping := some
      { family := .text (familyLocator family), weight := .weight weight, style := .style style } }

def reserved (name : String) : Entry :=
  { name := .text name, mapping := none }

def legacyEntries : List Entry := [
  builtIn "Legacy" "LegacyArial" .regular .normal,
  builtIn "Arial" "Arial" .regular .normal,
  builtIn "ArialBold" "Arial" .bold .normal,
  builtIn "SourceSans" "SourceSansPro" .regular .normal,
  builtIn "SourceSansBold" "SourceSansPro" .bold .normal,
  builtIn "SourceSansSemibold" "SourceSansPro" .semiBold .normal,
  builtIn "SourceSansLight" "SourceSansPro" .light .normal,
  builtIn "SourceSansItalic" "SourceSansPro" .regular .italic,
  builtIn "Bodoni" "AccanthisADFStd" .regular .normal,
  builtIn "Garamond" "Guru" .regular .normal,
  builtIn "Cartoon" "ComicNeueAngular" .regular .normal,
  builtIn "Code" "Inconsolata" .regular .normal,
  builtIn "Highway" "HighwayGothic" .regular .normal,
  builtIn "SciFi" "Zekton" .regular .normal,
  builtIn "Arcade" "PressStart2P" .regular .normal,
  builtIn "Fantasy" "Balthazar" .regular .normal,
  builtIn "Antique" "RomanAntique" .regular .normal,
  builtIn "Gotham" "GothamSSm" .regular .normal,
  builtIn "GothamMedium" "GothamSSm" .medium .normal,
  builtIn "GothamBold" "GothamSSm" .bold .normal,
  builtIn "GothamBlack" "GothamSSm" .heavy .normal,
  builtIn "AmaticSC" "AmaticSC" .regular .normal,
  builtIn "Bangers" "Bangers" .regular .normal,
  builtIn "Creepster" "Creepster" .regular .normal,
  builtIn "DenkOne" "DenkOne" .regular .normal,
  builtIn "Fondamento" "Fondamento" .regular .normal,
  builtIn "FredokaOne" "FredokaOne" .regular .normal,
  builtIn "GrenzeGotisch" "GrenzeGotisch" .regular .normal,
  builtIn "IndieFlower" "IndieFlower" .regular .normal,
  builtIn "JosefinSans" "JosefinSans" .regular .normal,
  builtIn "Jura" "Jura" .regular .normal,
  builtIn "Kalam" "Kalam" .regular .normal,
  builtIn "LuckiestGuy" "LuckiestGuy" .regular .normal,
  builtIn "Merriweather" "Merriweather" .regular .normal,
  builtIn "Michroma" "Michroma" .regular .normal,
  builtIn "Nunito" "Nunito" .regular .normal,
  builtIn "Oswald" "Oswald" .regular .normal,
  builtIn "PatrickHand" "PatrickHand" .regular .normal,
  builtIn "PermanentMarker" "PermanentMarker" .regular .normal,
  builtIn "Roboto" "Roboto" .regular .normal,
  builtIn "RobotoCondensed" "RobotoCondensed" .regular .normal,
  builtIn "RobotoMono" "RobotoMono" .regular .normal,
  builtIn "Sarpanch" "Sarpanch" .regular .normal,
  builtIn "SpecialElite" "SpecialElite" .regular .normal,
  builtIn "TitilliumWeb" "TitilliumWeb" .regular .normal,
  builtIn "Ubuntu" "Ubuntu" .regular .normal,
  reserved "Unknown"]

/-- The catalog that names are resolved with unless another one is given. -/
def legacy : Catalog := { entries := legacyEntries }

end Catalog

namespace Descriptor

/-- The legacy name that a text or an item of the legacy vocabulary asks for. -/
def legacyName : Value → Except Failure Value
  | .text name => .ok (.text name)
  | .brokenText content => .ok (.brokenText content)
  | .item (.vocabulary .legacyFont) name => .ok name
  | given => Failure.raise (.wrongVocabulary (.vocabulary .legacyFont) (actualVocabulary given))

/-- Resolves a legacy name into a descriptor. -/
def ofLegacy (given : Value) : Except Failure Descriptor := do
  let name ← legacyName given
  Catalog.legacy.resolve name

end Descriptor

end Typeface
