/-!
# Blank characters

Two sets of characters count as blank.  `isBlank` is the Unicode property
White_Space, and numerals are trimmed with it.  `isSpacing` adds the four
information separators U+001C to U+001F, which count as blank in dotenv files.
-/

namespace Typeface.Text

def isBlank (letter : Char) : Bool :=
  let code := letter.toNat
  (9 ≤ code && code ≤ 13) || code == 0x20 || code == 0x85 || code == 0xA0 || code == 0x1680 ||
    (0x2000 ≤ code && code ≤ 0x200A) || code == 0x2028 || code == 0x2029 || code == 0x202F ||
    code == 0x205F || code == 0x3000

def isSpacing (letter : Char) : Bool :=
  isBlank letter || (0x1C ≤ letter.toNat && letter.toNat ≤ 0x1F)

/-- Removes the letters of a set from both ends. -/
def trim {α : Type} (isOuter : α → Bool) (letters : List α) : List α :=
  ((letters.dropWhile isOuter).reverse.dropWhile isOuter).reverse

/-- Removes the letters of a set from the right end only. -/
def trimRight {α : Type} (isOuter : α → Bool) (letters : List α) : List α :=
  (letters.reverse.dropWhile isOuter).reverse

theorem isSpacing_of_isBlank {letter : Char} (h : isBlank letter) : isSpacing letter := by
  simp [isSpacing, h]

end Typeface.Text
