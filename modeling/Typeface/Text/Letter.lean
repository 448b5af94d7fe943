/-!
# Letter case

Names are compared without regard to case.  Where names are ASCII, few other
characters can spell them: the sign for kelvin has a small form in ASCII, and
the dotless i and the long s have capital forms there.
-/

namespace Typeface.Text

/-- Lowers a capital of ASCII. -/
def lowerAscii (letter : Char) : Char :=
  if 'A' ≤ letter ∧ letter ≤ 'Z' then Char.ofNat (letter.toNat + 32) else letter

/-- Lowers a letter whose small form is in ASCII. -/
def foldLetter (letter : Char) : Char :=
  if letter.toNat = 0x212A then 'k' else lowerAscii letter

/-- Raises a letter whose capital form is a letter of ASCII. -/
def raiseLetter (letter : Char) : Char :=
  if 'a' ≤ letter ∧ letter ≤ 'z' then Char.ofNat (letter.toNat - 32)
  else if letter.toNat = 0x131 then 'I'
  else if letter.toNat = 0x17F then 'S'
  else letter

/-- The form in which names are compared. -/
def foldName (name : String) : String :=
  String.ofList (name.toList.map foldLetter)

def lowerText (text : String) : String :=
  String.ofList (text.toList.map lowerAscii)

end Typeface.Text
