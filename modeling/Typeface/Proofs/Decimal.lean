import Typeface.Number.Decimal

/-!
# Digits of decimal numerals

A natural number is written in digits of ASCII, of which the first is a zero for
zero alone, and the digits spell the number that they were written for.  No other
letters do so, and no number shares its digits with another.
-/

namespace Typeface.Number

open Typeface.Text

theorem isDigit_of_mem_decimalDigits {value : Nat} {letter : Char}
    (hletter : letter ∈ decimalDigits value) : letter.isDigit = true :=
  Nat.isDigit_of_mem_toDigits (by decide) (by decide) hletter

theorem decimalDigits_ne_nil (value : Nat) : decimalDigits value ≠ [] :=
  Nat.toDigits_ne_nil

theorem decimalDigits_eq_cons (value : Nat) :
    ∃ first others, decimalDigits value = first :: others ∧ first.isDigit = true := by
  obtain ⟨first, others, hdigits⟩ := List.exists_cons_of_ne_nil (decimalDigits_ne_nil value)
  have hfirst : first ∈ decimalDigits value := by simp [hdigits]
  exact ⟨first, others, hdigits, isDigit_of_mem_decimalDigits hfirst⟩

theorem head?_decimalDigits_ne_zero {value : Nat} (hpositive : 0 < value) :
    (decimalDigits value).head? ≠ some '0' := by
  induction value using Nat.strongRecOn with
  | ind value ih =>
    by_cases hsmall : value < 10
    · have hdigit : ∀ digit < 10, 0 < digit → digit.digitChar ≠ '0' := by decide
      rw [decimalDigits, Nat.toDigits_of_lt_base hsmall, List.head?_cons, ne_eq, Option.some.injEq]
      exact hdigit value hsmall hpositive
    · obtain ⟨first, others, hhigher, _⟩ := decimalDigits_eq_cons (value / 10)
      have hdigits : decimalDigits value =
          decimalDigits (value / 10) ++ [(value % 10).digitChar] :=
        Nat.toDigits_of_base_le (by decide) (by omega)
      have hfirst := ih (value / 10) (by omega) (by omega)
      rw [hhigher, List.head?_cons] at hfirst
      rwa [hdigits, hhigher, List.cons_append, List.head?_cons]

theorem plainDigit?_of_isDigit {letter : Char} (hdigit : letter.isDigit = true) :
    plainDigit? letter = some (letter.toNat - '0'.toNat) := by
  have hbounds : '0' ≤ letter ∧ letter ≤ '9' := by
    simpa [Char.isDigit, Char.le_def] using hdigit
  rw [plainDigit?, if_pos hbounds]

theorem isSome_plainDigit? (letter : Char) : (plainDigit? letter).isSome = letter.isDigit := by
  by_cases hdigit : letter.isDigit = true
  · rw [plainDigit?_of_isDigit hdigit, hdigit, Option.isSome_some]
  · have hbounds : ¬ ('0' ≤ letter ∧ letter ≤ '9') := by
      simpa [Char.isDigit, Char.le_def] using hdigit
    rw [plainDigit?, if_neg hbounds, Option.isSome_none, (Bool.not_eq_true _).mp hdigit]

theorem ofDigits_eq_ofDigitChars {letters : List Char}
    (hdigits : ∀ letter ∈ letters, letter.isDigit = true) :
    ofDigits 10 (letters.filterMap plainDigit?) = Nat.ofDigitChars 10 letters 0 := by
  have hvalues : letters.filterMap plainDigit? =
      letters.map fun letter => letter.toNat - '0'.toNat := by
    induction letters with
    | nil => rfl
    | cons first others ih =>
      have hfirst := plainDigit?_of_isDigit (hdigits first List.mem_cons_self)
      have hothers := ih fun letter hletter => hdigits letter (List.mem_cons_of_mem first hletter)
      simp [hfirst, hothers]
  rw [hvalues, ofDigits, List.foldl_map, Nat.ofDigitChars_eq_foldl]
  simp only [Nat.mul_comm]

theorem ofDigits_decimalDigits (value : Nat) :
    ofDigits 10 ((decimalDigits value).filterMap plainDigit?) = value := by
  calc
    ofDigits 10 ((decimalDigits value).filterMap plainDigit?)
        = Nat.ofDigitChars 10 (decimalDigits value) 0 :=
      ofDigits_eq_ofDigitChars fun letter => isDigit_of_mem_decimalDigits
    _ = value := Nat.ofDigitChars_toDigits (by decide) (by decide)

theorem decimalDigits_injective {left right : Nat}
    (heq : decimalDigits left = decimalDigits right) : left = right := by
  rw [← ofDigits_decimalDigits left, heq, ofDigits_decimalDigits]

theorem decimalDigits_digit {letter : Char} (hdigit : letter.isDigit = true) :
    letter.toNat - '0'.toNat < 10 ∧ decimalDigits (letter.toNat - '0'.toNat) = [letter] := by
  have hbounds : 48 ≤ letter.toNat ∧ letter.toNat ≤ 57 := Char.isDigit_iff_toNat.mp hdigit
  have hsmall : letter.toNat - '0'.toNat < 10 := by
    have hzero : '0'.toNat = 48 := rfl
    omega
  have hletter : (letter.toNat - '0'.toNat).digitChar = letter := by
    apply Char.toNat_inj.mp
    rw [Nat.toNat_digitChar_of_lt_ten hsmall]
    have hzero : '0'.toNat = 48 := rfl
    omega
  exact ⟨hsmall, by rw [decimalDigits, Nat.toDigits_of_lt_base hsmall, hletter]⟩

/-- Digits behind those of a positive number are the last digits of the number that all of them
spell. -/
theorem decimalDigits_append {value : Nat} (hpositive : 0 < value) {letters : List Char}
    (hdigits : ∀ letter ∈ letters, letter.isDigit = true) :
    decimalDigits value ++ letters = decimalDigits (Nat.ofDigitChars 10 letters value) := by
  induction letters generalizing value with
  | nil => simp
  | cons first others ih =>
    obtain ⟨hsmall, hfirst⟩ := decimalDigits_digit (hdigits first List.mem_cons_self)
    have hothers : ∀ letter ∈ others, letter.isDigit = true := fun letter hletter =>
      hdigits letter (List.mem_cons_of_mem first hletter)
    have hlast : decimalDigits value ++ [first] =
        decimalDigits (10 * value + (first.toNat - '0'.toNat)) := by
      rw [← hfirst]
      exact Nat.toDigits_append_toDigits (by decide) hpositive hsmall
    calc
      decimalDigits value ++ first :: others = (decimalDigits value ++ [first]) ++ others := by simp
      _ = decimalDigits (10 * value + (first.toNat - '0'.toNat)) ++ others := by rw [hlast]
      _ = decimalDigits (Nat.ofDigitChars 10 others (10 * value + (first.toNat - '0'.toNat))) :=
        ih (by omega) hothers
      _ = decimalDigits (Nat.ofDigitChars 10 (first :: others) value) := by
        rw [Nat.ofDigitChars_cons]

/-- The letters write a number in canonical form: digits of ASCII that spell it, of which the first
is a zero for zero alone. -/
structure IsNumeral (letters : List Char) (value : Nat) : Prop where
  nonempty : letters ≠ []
  digits : ∀ letter ∈ letters, letter.isDigit = true
  canonical : letters.head? = some '0' → letters = ['0']
  spells : ofDigits 10 (letters.filterMap plainDigit?) = value

theorem isNumeral_decimalDigits (value : Nat) : IsNumeral (decimalDigits value) value where
  nonempty := decimalDigits_ne_nil value
  digits _ := isDigit_of_mem_decimalDigits
  canonical := by
    intro hzero
    rcases Nat.eq_zero_or_pos value with rfl | hpositive
    · rfl
    · exact absurd hzero (head?_decimalDigits_ne_zero hpositive)
  spells := ofDigits_decimalDigits value

/-- Every number has one canonical form. -/
theorem isNumeral_iff {letters : List Char} {value : Nat} :
    IsNumeral letters value ↔ letters = decimalDigits value := by
  constructor
  · intro hnumeral
    cases letters with
    | nil => exact absurd rfl hnumeral.nonempty
    | cons first others =>
      have hspells := hnumeral.spells
      rw [ofDigits_eq_ofDigitChars hnumeral.digits] at hspells
      by_cases hzero : first = '0'
      · subst hzero
        have hletters := hnumeral.canonical rfl
        rw [hletters] at hspells ⊢
        rw [← hspells]
        rfl
      · obtain ⟨_, hfirst⟩ := decimalDigits_digit (hnumeral.digits first List.mem_cons_self)
        have hothers : ∀ letter ∈ others, letter.isDigit = true := fun letter hletter =>
          hnumeral.digits letter (List.mem_cons_of_mem first hletter)
        have hpositive : 0 < first.toNat - '0'.toNat := by
          apply Nat.pos_of_ne_zero
          intro hnone
          rw [hnone] at hfirst
          exact hzero (List.cons.inj hfirst).1.symm
        rw [Nat.ofDigitChars_cons, Nat.mul_zero, Nat.zero_add] at hspells
        calc
          first :: others = decimalDigits (first.toNat - '0'.toNat) ++ others := by
            rw [hfirst, List.singleton_append]
          _ = decimalDigits (Nat.ofDigitChars 10 others (first.toNat - '0'.toNat)) :=
            decimalDigits_append hpositive hothers
          _ = decimalDigits value := by rw [hspells]
  · rintro rfl
    exact isNumeral_decimalDigits value

theorem length_decimalDigits_le_iff {value width : Nat} (hwidth : 0 < width) :
    (decimalDigits value).length ≤ width ↔ value < Nat.pow 10 width :=
  Nat.length_toDigits_le_iff (by decide) hwidth

theorem lt_length_decimalDigits_pow (width : Nat) (hwidth : 0 < width) :
    width < (decimalDigits (Nat.pow 10 width)).length := by
  rw [← Nat.not_le, length_decimalDigits_le_iff hwidth]
  exact Nat.lt_irrefl _

theorem toList_decimal (value : Nat) : (decimal value).toList = decimalDigits value := by
  have hnatural : ¬ (value : Int) < 0 := by omega
  simp [decimal, decimalLetters, hnatural]

end Typeface.Number
