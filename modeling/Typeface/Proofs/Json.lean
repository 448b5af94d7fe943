import Typeface.Document.Font
import Typeface.Json.Decoder
import Typeface.Proofs.Decimal
import Typeface.Proofs.Value

/-!
# Reading back written JSON

The decoder reads a written text letter by letter, whatever stands behind its
closing mark, and a numeral up to the first letter that cannot belong to it.
From these it follows that an object whose members are written with no blanks
is read member by member.
-/

namespace Typeface.Json

open Typeface.Number Typeface.Text
open Typeface.Document.Font (jsonLetter jsonText)

variable {letters rest left : List Char} {codes : List Nat}

/-! ## Characters and code points -/

/-- No character is one half of a surrogate pair. -/
theorem isHighSurrogate_toNat (letter : Char) : isHighSurrogate letter.toNat = false := by
  have hvalid : letter.toNat < 0xD800 ∨ 0xDFFF < letter.toNat ∧ letter.toNat < 0x110000 :=
    letter.valid
  simp only [isHighSurrogate, Bool.and_eq_false_iff, decide_eq_false_iff_not]
  omega

theorem joinPairs_toNat (letters : List Char) :
    joinPairs (letters.map Char.toNat) = letters.map Char.toNat := by
  induction letters with
  | nil => rfl
  | cons first others ih =>
    cases others with
    | nil => rfl
    | cons second others =>
      simp only [List.map_cons] at ih ⊢
      simp only [joinPairs, isHighSurrogate_toNat, Bool.false_and, Bool.false_eq_true, if_false, ih]

/-! ## Texts -/

theorem hex_control : ∀ code < 0x20,
    (hex 4 code).length = 4 ∧ ((hex 4 code).mapM hexDigit?).map (ofDigits 16) = some code := by
  decide

/-- One written letter is read as its code point: the marks after a backslash, the controls by
letter or by number, and every other character as it stands. -/
theorem stringCodes_jsonLetter (letter : Char) (hrest : stringCodes rest = .ok (codes, left)) :
    stringCodes (jsonLetter letter ++ rest) = .ok (letter.toNat :: codes, left) := by
  unfold jsonLetter
  split
  · next hmark =>
    rcases hmark with rfl | rfl <;>
      simp [stringCodes, quotationMark, backslash, shortEscape?, hrest]
  split
  · next hcode => simp [stringCodes, backslash, shortEscape?, hrest, hcode]
  split
  · next hcode => simp [stringCodes, backslash, shortEscape?, hrest, hcode]
  split
  · next hcode => simp [stringCodes, backslash, shortEscape?, hrest, hcode]
  split
  · next hcode => simp [stringCodes, backslash, shortEscape?, hrest, hcode]
  split
  · next hcode => simp [stringCodes, backslash, shortEscape?, hrest, hcode]
  split
  · next hcontrol =>
    obtain ⟨hlength, hnumber⟩ := hex_control letter.toNat hcontrol
    match hex 4 letter.toNat, hlength, hnumber with
    | [first, second, third, fourth], _, hnumber =>
      obtain ⟨digits, hdigits, hcode⟩ := Option.map_eq_some_iff.mp hnumber
      simp [stringCodes, backslash, hdigits, hrest, hcode]
  · next hmark _ _ _ _ _ hcontrol =>
    rw [not_or] at hmark
    rw [List.singleton_append, stringCodes]
    · simp [hcontrol, hrest]
    · exact hmark.1
    · exact fun _ _ _ _ _ hbackslash => absurd hbackslash hmark.2
    · exact fun _ _ hbackslash => absurd hbackslash hmark.2

theorem stringCodes_flatMap (letters rest : List Char) :
    stringCodes (letters.flatMap jsonLetter ++ '"' :: rest) =
      .ok (letters.map Char.toNat, rest) := by
  induction letters with
  | nil => simp [stringCodes]
  | cons first others ih =>
    rw [List.flatMap_cons, List.append_assoc, stringCodes_jsonLetter first ih, List.map_cons]

theorem string_flatMap (text : String) (rest : List Char) :
    string (text.toList.flatMap jsonLetter ++ '"' :: rest) = .ok (.text text, rest) := by
  simp only [string, stringCodes_flatMap, joinPairs_toNat, Value.ofCodes_text]

theorem toList_jsonText (text : String) (rest : List Char) :
    (jsonText text).toList ++ rest = '"' :: (text.toList.flatMap jsonLetter ++ '"' :: rest) := by
  simp [jsonText, quotationMark]

/-! ## Numerals -/

theorem isDigit_eq (letter : Char) : isDigit letter = letter.isDigit :=
  isSome_plainDigit? letter

/-- What can stand behind a numeral without being read as a part of it. -/
def EndsNumeral (rest : List Char) : Prop :=
  ∀ letter ∈ rest.head?, isDigit letter = false ∧ letter ≠ '.' ∧ letter ≠ 'e' ∧ letter ≠ 'E'

theorem fraction_of_endsNumeral (hends : EndsNumeral rest) : fraction rest = none := by
  unfold fraction
  split
  · exact absurd rfl (hends '.' rfl).2.1
  · rfl

theorem exponent_of_endsNumeral (hends : EndsNumeral rest) : exponent rest = none := by
  unfold exponent
  split
  · next letter others =>
    obtain ⟨_, _, hsmall, hcapital⟩ := hends letter rfl
    simp [hsmall, hcapital]
  · rfl

theorem span_decimalDigits (value : Nat) (hends : EndsNumeral rest) :
    (decimalDigits value ++ rest).takeWhile isDigit = decimalDigits value ∧
      (decimalDigits value ++ rest).dropWhile isDigit = rest := by
  have hdigits : ∀ letter ∈ decimalDigits value, isDigit letter = true := by
    intro letter hletter
    rw [isDigit_eq, isDigit_of_mem_decimalDigits hletter]
  have hstop : rest.takeWhile isDigit = [] ∧ rest.dropWhile isDigit = rest := by
    cases rest with
    | nil => exact ⟨rfl, rfl⟩
    | cons first others => simp [(hends first rfl).1]
  rw [List.takeWhile_append_of_pos hdigits, List.dropWhile_append_of_pos hdigits, hstop.1, hstop.2,
    List.append_nil]
  exact ⟨rfl, rfl⟩

theorem wholeDigits_decimalDigits (value : Nat) (hends : EndsNumeral rest) :
    wholeDigits (decimalDigits value ++ rest) = (decimalDigits value, rest) := by
  by_cases hzero : value = 0
  · subst hzero
    rfl
  · have hfirst := head?_decimalDigits_ne_zero (Nat.pos_of_ne_zero hzero)
    obtain ⟨first, others, hdigits, _⟩ := decimalDigits_eq_cons value
    obtain ⟨htaken, hdropped⟩ := span_decimalDigits value hends
    unfold wholeDigits
    split
    · next hstart =>
      -- a lone zero is read on its own, but no other numeral begins with one
      rw [hdigits, List.cons_append] at hstart
      rw [hdigits, (List.cons.inj hstart).1] at hfirst
      exact absurd rfl hfirst
    · rw [htaken, hdropped]

theorem unsignedNumber_decimalDigits (negative : Bool) {value : Nat}
    (hlength : (decimalDigits value).length ≤ digitLimit) (hends : EndsNumeral rest) :
    unsignedNumber negative (decimalDigits value ++ rest) =
      .ok (.int (signed negative value), rest) := by
  have hgiven : (decimalDigits value).isEmpty = false := by simp [decimalDigits_ne_nil]
  simp only [unsignedNumber, wholeDigits_decimalDigits value hends, hgiven,
    ofDigits_decimalDigits value, fraction_of_endsNumeral hends, exponent_of_endsNumeral hends,
    Option.getD_none, Bool.false_eq_true, if_false, Nat.not_lt.mpr hlength]

/-- No value but a number begins with a digit. -/
theorem value_eq_unsignedNumber (depth steps : Nat) {first : Char}
    (hfirst : first.isDigit = true) :
    value depth (steps + 1) (first :: rest) = unsignedNumber false (first :: rest) := by
  have hne : ∀ {other : Char} {others : List Char}, other.isDigit = false →
      first :: rest ≠ other :: others := by
    intro other others hother heq
    rw [(List.cons.inj heq).1, hother] at hfirst
    cases hfirst
  have hnumber : number (first :: rest) = unsignedNumber false (first :: rest) := by
    unfold number
    split
    case h_3 => rfl
    all_goals
      next hminus => exact absurd hminus (hne rfl)
  unfold value
  split
  case h_9 => exact hnumber
  all_goals
    next hother => exact absurd hother (hne rfl)

/-! ## Members of objects -/

/-- Letters that are read as a value where a comma or the end of an object follows. -/
def Shows (letters : List Char) (content : Value) : Prop :=
  ∀ depth steps mark rest, mark = ',' ∨ mark = '\x7d' →
    value depth (steps + 1) (skipBlanks (letters ++ mark :: rest)) = .ok (content, mark :: rest)

theorem shows_text (text : String) : Shows (jsonText text).toList (.text text) := by
  intro depth steps mark rest _
  rw [toList_jsonText]
  exact string_flatMap text (mark :: rest)

theorem shows_null : Shows "null".toList .null :=
  fun _ _ _ _ _ => rfl

theorem endsNumeral_mark {mark : Char} (hmark : mark = ',' ∨ mark = '\x7d') :
    EndsNumeral (mark :: rest) := by
  intro letter hletter
  cases hletter
  rcases hmark with rfl | rfl <;> decide

theorem skipBlanks_digit {first : Char} (hfirst : first.isDigit = true) :
    skipBlanks (first :: rest) = first :: rest := by
  have hsolid : isBlank first = false := by
    simp only [isBlank, Bool.or_eq_false_iff, beq_eq_false_iff_ne]
    refine ⟨⟨⟨?_, ?_⟩, ?_⟩, ?_⟩ <;> (rintro rfl; cases hfirst)
  rw [skipBlanks, List.dropWhile_cons_of_neg (by simp [hsolid])]

theorem shows_decimal {value : Nat} (hlength : (decimalDigits value).length ≤ digitLimit) :
    Shows (decimal value).toList (.int value) := by
  intro depth steps mark rest hmark
  obtain ⟨first, others, hdigits, hfirst⟩ := decimalDigits_eq_cons value
  have hends : EndsNumeral (mark :: rest) := endsNumeral_mark hmark
  have hread := unsignedNumber_decimalDigits false hlength hends
  rw [hdigits, List.cons_append] at hread
  rw [toList_decimal, hdigits, List.cons_append, skipBlanks_digit hfirst,
    value_eq_unsignedNumber depth steps hfirst]
  exact hread

/-- A member of an object, with the letters in which its content is written. -/
structure Member where
  name : String
  letters : List Char
  content : Value
  shows : Shows letters content

namespace Member

def shown (member : Member) : List Char :=
  (jsonText member.name).toList ++ ':' :: member.letters

def entry (member : Member) : Value × Value :=
  (.text member.name, member.content)

end Member

/-- A first member and others, with commas between them, up to the end of their object. -/
def memberLetters (first : Member) : List Member → List Char
  | [] => first.shown ++ ['\x7d']
  | second :: others => first.shown ++ ',' :: memberLetters second others

theorem memberLetters_quoted (first : Member) (others : List Member) (rest : List Char) :
    ∃ quoted, memberLetters first others ++ rest = '"' :: quoted := by
  cases others <;> simp [memberLetters, Member.shown, toList_jsonText]

theorem members_last (depth steps : Nat) (last : Member) (rest : List Char) :
    members depth (steps + 2) (last.shown ++ '\x7d' :: rest) = .ok ([last.entry], rest) := by
  have hread := last.shows depth steps '\x7d' rest (.inr rfl)
  have hcolon : skipBlanks (':' :: last.letters ++ '\x7d' :: rest) =
      ':' :: (last.letters ++ '\x7d' :: rest) := rfl
  rw [Member.shown, List.append_assoc, toList_jsonText, members]
  simp only [string_flatMap, hcolon, hread]
  rfl

theorem members_more {depth steps : Nat} (first : Member) {entries : List (Value × Value)}
    (hsolid : skipBlanks rest = rest)
    (hrest : members depth (steps + 1) rest = .ok (entries, left)) :
    members depth (steps + 2) (first.shown ++ ',' :: rest) = .ok (first.entry :: entries, left) := by
  have hread := first.shows depth steps ',' rest (.inl rfl)
  have hcolon : skipBlanks (':' :: first.letters ++ ',' :: rest) =
      ':' :: (first.letters ++ ',' :: rest) := rfl
  have hcomma : skipBlanks (',' :: rest) = ',' :: rest := rfl
  rw [Member.shown, List.append_assoc, toList_jsonText, members]
  simp only [string_flatMap, hcolon, hread, hcomma, hsolid, hrest]
  rfl

theorem members_memberLetters (depth steps : Nat) (first : Member) (others : List Member)
    (rest : List Char) :
    members depth (steps + others.length + 2) (memberLetters first others ++ rest) =
      .ok ((first :: others).map Member.entry, rest) := by
  induction others generalizing first with
  | nil =>
    rw [memberLetters, List.append_assoc]
    exact members_last depth steps first rest
  | cons second others ih =>
    have hsolid : skipBlanks (memberLetters second others ++ rest) =
        memberLetters second others ++ rest := by
      obtain ⟨quoted, hquoted⟩ := memberLetters_quoted second others rest
      rw [hquoted]
      rfl
    rw [memberLetters, List.append_assoc, List.cons_append, List.map_cons]
    exact members_more first hsolid (ih second)

theorem length_lt_memberLetters (first : Member) (others : List Member) :
    others.length < (memberLetters first others).length := by
  induction others generalizing first with
  | nil => simp [memberLetters]
  | cons second others ih =>
    have hothers := ih second
    simp only [memberLetters, List.length_append, List.length_cons]
    omega

/-- The text of an object is read member by member, to any depth. -/
theorem decode_object {text : String} (depth : Nat) (first : Member) (others : List Member)
    (htext : text.toList = '\x7b' :: memberLetters first others) :
    decode (depth + 1) text = .ok (Value.ofEntries ((first :: others).map Member.entry)) := by
  -- each member takes one step of the walk, and each is longer than one letter
  have hlength := length_lt_memberLetters first others
  obtain ⟨spare, hspare⟩ : ∃ spare, text.toList.length = spare + others.length + 2 := by
    refine ⟨(memberLetters first others).length - (others.length + 1), ?_⟩
    rw [htext, List.length_cons]
    omega
  have hmembers := members_memberLetters depth spare first others []
  obtain ⟨quoted, hquoted⟩ := memberLetters_quoted first others []
  rw [List.append_nil] at hquoted hmembers
  have hvalue : value (depth + 1) (text.toList.length + 1) (skipBlanks text.toList) =
      .ok (Value.ofEntries ((first :: others).map Member.entry), []) := by
    have hbrace : skipBlanks ('\x7b' :: '"' :: quoted) = '\x7b' :: '"' :: quoted := rfl
    have hmark : skipBlanks ('"' :: quoted) = '"' :: quoted := rfl
    rw [hquoted] at hmembers
    rw [hspare, htext, hquoted]
    simp [hbrace, value, hmark, hmembers]
  simp only [decode, hvalue]
  rfl

end Typeface.Json
