import Mathlib
import Typeface.Proofs.Value
import Typeface.Text.Quoted

/-!
# Quoted texts lead back

The mark that encloses a quoted text stands in front of it, and each code point
inside is written so that it can be read without a look at what follows.  No
written code point begins with the mark, so the end of the text is seen too: the
quoted form leads back to the code points, whatever stands behind it.
-/

namespace Typeface.Text

variable {mark letter : Char} {code : Nat} {codes others : List Nat} {rest left right : List Char}

/-! ## Hexadecimal digits -/

/-- The number that hexadecimal digits spell. -/
def hexValue (digits : List Char) : Nat :=
  ofDigits 16 (digits.filterMap hexDigit?)

theorem hexValue_toDigits (value : Nat) : hexValue (Nat.toDigits 16 value) = value := by
  induction value using Nat.strongRecOn with
  | ind value ih =>
    have hdigit : ∀ digit < 16, hexDigit? digit.digitChar = some digit := by decide
    by_cases hsmall : value < 16
    · rw [Nat.toDigits_of_lt_base hsmall]
      simp [hexValue, ofDigits, hdigit value hsmall]
    · have hhigher : ofDigits 16 ((Nat.toDigits 16 (value / 16)).filterMap hexDigit?) =
          value / 16 := ih (value / 16) (by omega)
      have hlast := hdigit (value % 16) (Nat.mod_lt value (by decide))
      rw [Nat.toDigits_of_base_le (by decide) (by omega)]
      simp only [hexValue, ofDigits, List.filterMap_append, List.foldl_append] at hhigher ⊢
      simp only [hhigher, List.filterMap_cons, List.filterMap_nil, hlast, List.foldl_cons,
        List.foldl_nil]
      omega

theorem hexValue_hex (width value : Nat) : hexValue (hex width value) = value := by
  have hzeros : ∀ (count : Nat) (digits : List Char),
      hexValue (List.replicate count '0' ++ digits) = hexValue digits := by
    intro count digits
    induction count with
    | zero => rfl
    | succ count ih => exact ih
  rw [hex, hzeros, hexValue_toDigits]

theorem length_hex {width value : Nat} (hwidth : 0 < width) (hvalue : value < 16 ^ width) :
    (hex width value).length = width := by
  have hlength : (Nat.toDigits 16 value).length ≤ width :=
    (Nat.length_toDigits_le_iff (by decide) hwidth).mpr hvalue
  simp only [hex, List.length_append, List.length_replicate]
  omega

/-! ## Single code points -/

/-- The number of digits behind the letter of a numbered code point. -/
def numberWidth? : Char → Option Nat
  | 'x' => some 2
  | 'u' => some 4
  | 'U' => some 8
  | _ => none

/-- What a letter behind a backslash stands for, unless a number follows it. -/
def escapedCode : Char → Nat
  | 'n' => '\n'.toNat
  | 'r' => '\r'.toNat
  | 't' => '\t'.toNat
  | letter => letter.toNat

/-- Reads one code point of a quoted text; what stands behind it is left. -/
def readPoint : List Char → Option (Nat × List Char)
  | '\\' :: sign :: rest =>
    match numberWidth? sign with
    | some width => some (hexValue (rest.take width), rest.drop width)
    | none => some (escapedCode sign, rest)
  | letter :: rest => some (letter.toNat, rest)
  | [] => none

theorem readPoint_numbered (hcode : code < 0x110000) :
    readPoint (numbered code ++ rest) = some (code, rest) := by
  have hread : ∀ {sign : Char} {width : Nat}, numberWidth? sign = some width →
      0 < width → code < 16 ^ width →
      readPoint (backslash :: sign :: hex width code ++ rest) = some (code, rest) := by
    intro sign width hsign hwidth hfits
    have hlength := length_hex hwidth hfits
    simp only [List.cons_append, backslash, readPoint, hsign, List.take_left' hlength,
      List.drop_left' hlength, hexValue_hex]
  unfold numbered
  split
  · next hshort => exact hread rfl (by decide) (by omega)
  split
  · next hmedium => exact hread rfl (by decide) (by omega)
  · exact hread rfl (by decide) (by omega)

theorem readPoint_quotedLetter (hmark : mark = apostrophe ∨ mark = quotationMark) :
    readPoint (quotedLetter mark letter ++ rest) = some (letter.toNat, rest) := by
  unfold quotedLetter
  split
  · next hspecial =>
    -- each of the three is an escape of itself
    have hself : letter = apostrophe ∨ letter = quotationMark ∨ letter = backslash := by
      rcases hspecial with rfl | rfl
      · exact hmark.imp_right .inl
      · exact .inr (.inr rfl)
    rcases hself with rfl | rfl | rfl <;> rfl
  split
  · next hfeed => rw [hfeed]; rfl
  split
  · next hreturn => rw [hreturn]; rfl
  split
  · next htab => rw [htab]; rfl
  split
  · next hspecial _ _ _ _ =>
    rw [not_or] at hspecial
    rw [List.singleton_append, readPoint]
    exact fun _ _ hbackslash => absurd hbackslash hspecial.2
  · have hvalid : letter.toNat < 0xD800 ∨ 0xDFFF < letter.toNat ∧ letter.toNat < 0x110000 :=
      letter.valid
    exact readPoint_numbered (by omega)

theorem readPoint_quotedPoint (hmark : mark = apostrophe ∨ mark = quotationMark)
    (hcode : code < 0x110000) :
    readPoint (quotedPoint mark code ++ rest) = some (code, rest) := by
  unfold quotedPoint
  split
  · next letter hletter =>
    rw [readPoint_quotedLetter hmark, toNat_of_scalar? hletter]
  · exact readPoint_numbered hcode

theorem numbered_eq_cons (code : Nat) : ∃ written, numbered code = backslash :: written := by
  unfold numbered
  split
  · exact ⟨_, rfl⟩
  split
  · exact ⟨_, rfl⟩
  · exact ⟨_, rfl⟩

/-- A letter is written behind a backslash, or stands as it is and is not the mark. -/
theorem quotedLetter_cases (mark letter : Char) :
    (∃ written, quotedLetter mark letter = backslash :: written) ∨
      quotedLetter mark letter = [letter] ∧ letter ≠ mark := by
  unfold quotedLetter
  split
  · exact .inl ⟨_, rfl⟩
  split
  · exact .inl ⟨_, rfl⟩
  split
  · exact .inl ⟨_, rfl⟩
  split
  · exact .inl ⟨_, rfl⟩
  split
  · next hspecial _ _ _ _ => exact .inr ⟨rfl, fun hletter => hspecial (.inl hletter)⟩
  · exact .inl (numbered_eq_cons _)

/-- No written code point begins with the mark. -/
theorem quotedPoint_append_ne (hmark : mark = apostrophe ∨ mark = quotationMark) :
    quotedPoint mark code ++ left ≠ mark :: right := by
  have hbackslash : backslash ≠ mark := by
    rcases hmark with rfl | rfl <;> decide
  intro heq
  unfold quotedPoint at heq
  split at heq
  · next letter _ =>
    rcases quotedLetter_cases mark letter with ⟨written, hwritten⟩ | ⟨hself, hother⟩
    · rw [hwritten] at heq
      exact hbackslash (List.cons.inj heq).1
    · rw [hself] at heq
      exact hother (List.cons.inj heq).1
  · obtain ⟨written, hwritten⟩ := numbered_eq_cons code
    rw [hwritten] at heq
    exact hbackslash (List.cons.inj heq).1

/-! ## Whole texts -/

theorem flatMap_quotedPoint_inj (hmark : mark = apostrophe ∨ mark = quotationMark)
    (hcodes : ∀ code ∈ codes, code < 0x110000) (hothers : ∀ code ∈ others, code < 0x110000)
    (heq : codes.flatMap (quotedPoint mark) ++ mark :: left =
      others.flatMap (quotedPoint mark) ++ mark :: right) :
    codes = others ∧ left = right := by
  induction codes generalizing others with
  | nil =>
    cases others with
    | nil => exact ⟨rfl, (List.cons.inj heq).2⟩
    | cons other others =>
      rw [List.flatMap_cons, List.append_assoc] at heq
      exact absurd heq.symm (quotedPoint_append_ne hmark)
  | cons code codes ih =>
    rw [List.flatMap_cons, List.append_assoc] at heq
    cases others with
    | nil => exact absurd heq (quotedPoint_append_ne hmark)
    | cons other others =>
      rw [List.forall_mem_cons] at hcodes hothers
      rw [List.flatMap_cons, List.append_assoc] at heq
      have hread := congrArg readPoint heq
      rw [readPoint_quotedPoint hmark hcodes.1, readPoint_quotedPoint hmark hothers.1,
        Option.some.injEq, Prod.mk.injEq] at hread
      obtain ⟨rfl, hsame⟩ := ih hcodes.2 hothers.2 hread.2
      exact ⟨by rw [hread.1], hsame⟩

theorem enclosingMark_eq (letters : List Char) :
    enclosingMark letters = apostrophe ∨ enclosingMark letters = quotationMark := by
  unfold enclosingMark
  split
  · exact .inr rfl
  · exact .inl rfl

/-- The quoted form of a text leads back to its code points, whatever stands behind it. -/
theorem quotedPoints_append_inj (hcodes : ∀ code ∈ codes, code < 0x110000)
    (hothers : ∀ code ∈ others, code < 0x110000)
    (heq : (quotedPoints codes).toList ++ left = (quotedPoints others).toList ++ right) :
    codes = others ∧ left = right := by
  simp only [quotedPoints, String.toList_ofList, List.cons_append, List.append_assoc,
    List.nil_append, List.cons.injEq] at heq
  obtain ⟨hmark, heq⟩ := heq
  rw [← hmark] at heq
  exact flatMap_quotedPoint_inj (enclosingMark_eq _) hcodes hothers heq

/-- A text without surrogates is quoted by its code points. -/
theorem quotedPoints_toNat (letters : List Char) :
    quotedPoints (letters.map Char.toNat) = String.ofList (quotedLetters letters) := by
  have hscalars : (letters.map Char.toNat).filterMap scalar? = letters := by
    simp [List.filterMap_map, scalar?_toNat]
  have hpoint : ∀ mark, quotedPoint mark ∘ Char.toNat = quotedLetter mark := by
    intro mark
    funext letter
    simp [quotedPoint, scalar?_toNat]
  simp only [quotedPoints, quotedLetters, hscalars, List.flatMap_map, ← hpoint, Function.comp_def]

end Typeface.Text
