import Mathlib
import Typeface.Cli.LogFormat
import Typeface.Proofs.Text.Host

/-!
# Fields of log formats

A field has parts of which several may be missing, and the scan for one takes as
much as it can for each part.  No letter that may end a field can be taken for
another part of it, so that the scan finds a field wherever one is written.  A
format is accepted exactly if it is empty or some field stands in it.
-/

namespace Typeface.Cli.LogFormat

open Typeface.Text

/-- A count is an asterisk, or digits. -/
inductive Count : List Char → Prop
  | asterisk : Count ['*']
  | digits {digits : List Char} (hsome : digits ≠ [])
      (hdigits : ∀ digit ∈ digits, isDigit digit = true) : Count digits

/-- What follows the name of a field: flags, a width, a precision and a letter, of which only the
letter must be there. -/
inductive Ending : List Char → Prop
  | mk {flags width precision : List Char} {letter : Char}
      (hflags : ∀ flag ∈ flags, isFlag flag = true) (hwidth : width = [] ∨ Count width)
      (hprecision : precision = [] ∨ ∃ count, Count count ∧ precision = '.' :: count)
      (hletter : isConversion letter = true) :
      Ending (flags ++ (width ++ (precision ++ [letter])))

inductive Field : List Char → Prop
  | mk {name ending : List Char} (hsome : name ≠ [])
      (hname : ∀ letter ∈ name, isNameLetter letter = true) (hending : Ending ending) :
      Field ('%' :: '(' :: (name ++ ')' :: ending))

/-- A format that says something about records, or leaves it to the standard format. -/
def WellFormed (format : HostText) : Prop :=
  format = "" ∨ ∃ field, Field field ∧ field <:+: format.letters

variable {letters rest digits : List Char} {letter next : Char}

/-! ## Letters that no part but the last takes -/

/-- The letter ends flags and digits, and begins neither a count nor a precision. -/
def isLast (letter : Char) : Bool :=
  !isFlag letter && !isDigit letter && letter != '*' && letter != '.'

theorem isLast_of_capital (hlow : 'A' ≤ letter) (hhigh : letter ≤ 'Z') : isLast letter = true := by
  have hcapitals : ∀ offset < 26, isLast (Char.ofNat (65 + offset)) = true := by decide +kernel
  have hfrom : 65 ≤ letter.toNat := hlow
  have hto : letter.toNat ≤ 90 := hhigh
  have hletter := hcapitals (letter.toNat - 65) (by omega)
  rwa [Nat.add_sub_of_le hfrom, Char.ofNat_toNat] at hletter

theorem isLast_of_isConversion (hletter : isConversion letter = true) : isLast letter = true := by
  have hlisted : ("diouxefgcrsa%\u0131\u0130\u017F".toList.all isLast) = true := by cbv
  rw [isConversion, List.contains_iff_mem] at hletter
  by_cases hcapital : 'A' ≤ letter ∧ letter ≤ 'Z'
  · exact isLast_of_capital hcapital.1 hcapital.2
  · rw [lowerAscii, if_neg hcapital] at hletter
    exact List.all_eq_true.mp hlisted letter hletter

theorem isLast_iff :
    isLast letter = true ↔
      isFlag letter = false ∧ isDigit letter = false ∧ letter ≠ '*' ∧ letter ≠ '.' := by
  simp [isLast, and_assoc]

/-! ## Counts -/

/-- What follows a count, or all of it where there is none. -/
def afterCount (letters : List Char) : List Char :=
  (skipCount? letters).getD letters

/-- What follows a precision, or all of it where there is none. -/
def afterPrecision (letters : List Char) : List Char :=
  match letters with
  | '.' :: rest => (skipCount? rest).getD letters
  | _ => letters

theorem endsField_eq (letters : List Char) :
    endsField letters =
      (afterPrecision (afterCount (letters.dropWhile isFlag))).head?.any isConversion := rfl

theorem count_of_skipCount? (hskip : skipCount? letters = some rest) :
    ∃ count, Count count ∧ letters = count ++ rest := by
  unfold skipCount? at hskip
  split at hskip
  · cases hskip
    exact ⟨['*'], .asterisk, rfl⟩
  · next first others _ =>
    split at hskip
    · next hdigit =>
      cases hskip
      refine ⟨first :: others.takeWhile isDigit, .digits (by simp) ?_, ?_⟩
      · rw [List.forall_mem_cons]
        exact ⟨hdigit, fun digit hmem => List.mem_takeWhile_imp hmem⟩
      · rw [List.cons_append, List.takeWhile_append_dropWhile]
    · cases hskip
  · cases hskip

theorem exists_afterCount (letters : List Char) :
    ∃ width, (width = [] ∨ Count width) ∧ letters = width ++ afterCount letters := by
  rw [afterCount]
  cases hskip : skipCount? letters with
  | none => exact ⟨[], .inl rfl, rfl⟩
  | some rest =>
    obtain ⟨count, hcount, hletters⟩ := count_of_skipCount? hskip
    exact ⟨count, .inr hcount, hletters⟩

theorem exists_afterPrecision (letters : List Char) :
    ∃ precision, (precision = [] ∨ ∃ count, Count count ∧ precision = '.' :: count) ∧
      letters = precision ++ afterPrecision letters := by
  unfold afterPrecision
  split
  · next rest =>
    cases hskip : skipCount? rest with
    | none => exact ⟨[], .inl rfl, rfl⟩
    | some after =>
      obtain ⟨count, hcount, rfl⟩ := count_of_skipCount? hskip
      exact ⟨'.' :: count, .inr ⟨count, hcount, rfl⟩, rfl⟩
  · exact ⟨[], .inl rfl, rfl⟩

theorem dropWhile_digits (hdigits : ∀ digit ∈ digits, isDigit digit = true)
    (hnext : isDigit next = false) :
    (digits ++ next :: rest).dropWhile isDigit = next :: rest := by
  rw [List.dropWhile_append_of_pos hdigits, List.dropWhile_cons_of_neg (by simp [hnext])]

theorem isDigit_asterisk : isDigit '*' = false := by decide

/-- A count is taken as a whole where no digit follows it. -/
theorem skipCount?_append {count : List Char} (hcount : Count count) (hnext : isDigit next = false) :
    skipCount? (count ++ next :: rest) = some (next :: rest) := by
  cases hcount with
  | asterisk => rfl
  | digits hsome hdigits =>
    obtain ⟨first, others, rfl⟩ := List.exists_cons_of_ne_nil hsome
    rw [List.forall_mem_cons] at hdigits
    have hfirst : first ≠ '*' := by
      rintro rfl
      rw [isDigit_asterisk] at hdigits
      cases hdigits.1
    rw [List.cons_append, skipCount?.eq_2 _ _ hfirst, if_pos hdigits.1,
      dropWhile_digits hdigits.2 hnext]

theorem afterCount_append {width : List Char} (hwidth : width = [] ∨ Count width)
    (hnext : isDigit next = false) (hasterisk : next ≠ '*') :
    afterCount (width ++ next :: rest) = next :: rest := by
  rcases hwidth with rfl | hcount
  · rw [List.nil_append, afterCount, skipCount?.eq_2 _ _ hasterisk, if_neg (by simp [hnext])]
    rfl
  · rw [afterCount, skipCount?_append hcount hnext]
    rfl

/-- Zeros in front of a width go with the flags, and what is left of it is a width again. -/
theorem dropWhile_flags {width : List Char} (rest : List Char) (hwidth : width = [] ∨ Count width)
    (hnext : isFlag next = false) :
    ∃ left, (left = [] ∨ Count left) ∧
      (width ++ next :: rest).dropWhile isFlag = left ++ next :: rest := by
  have hstop : (next :: rest).dropWhile isFlag = next :: rest :=
    List.dropWhile_cons_of_neg (by simp [hnext])
  rcases hwidth with rfl | hcount
  · exact ⟨[], .inl rfl, hstop⟩
  cases hcount with
  | asterisk => exact ⟨['*'], .inr .asterisk, rfl⟩
  | digits hsome hdigits =>
    rw [List.dropWhile_append, hstop]
    split
    · exact ⟨[], .inl rfl, rfl⟩
    · next hleft =>
      refine ⟨width.dropWhile isFlag, .inr (.digits (by simpa using hleft) ?_), rfl⟩
      intro digit hdigit
      exact hdigits digit ((List.dropWhile_sublist isFlag).subset hdigit)

theorem afterPrecision_append {precision : List Char}
    (hprecision : precision = [] ∨ ∃ count, Count count ∧ precision = '.' :: count)
    (hnext : isDigit next = false) (hpoint : next ≠ '.') :
    afterPrecision (precision ++ next :: rest) = next :: rest := by
  rcases hprecision with rfl | ⟨count, hcount, rfl⟩
  · unfold afterPrecision
    split
    · next heq => exact absurd (List.cons.inj heq).1 hpoint
    · rfl
  · simp only [List.cons_append, afterPrecision, skipCount?_append hcount hnext, Option.getD_some]

/-! ## Fields -/

theorem endsField_iff : endsField letters = true ↔ ∃ ending, Ending ending ∧ ending <+: letters := by
  rw [endsField_eq]
  constructor
  · intro hends
    obtain ⟨width, hwidth, hafterFlags⟩ := exists_afterCount (letters.dropWhile isFlag)
    obtain ⟨precision, hprecision, hafterWidth⟩ :=
      exists_afterPrecision (afterCount (letters.dropWhile isFlag))
    cases hleft : afterPrecision (afterCount (letters.dropWhile isFlag)) with
    | nil => simp [hleft] at hends
    | cons letter after =>
      rw [hleft] at hends hafterWidth
      rw [hafterWidth] at hafterFlags
      have hflags : ∀ flag ∈ letters.takeWhile isFlag, isFlag flag = true :=
        fun _ => List.mem_takeWhile_imp
      refine ⟨_, .mk hflags hwidth hprecision hends, after, ?_⟩
      calc
        _ = letters.takeWhile isFlag ++ (width ++ (precision ++ letter :: after)) := by simp
        _ = letters := by rw [← hafterFlags, List.takeWhile_append_dropWhile]
  · rintro ⟨ending, hending, after, rfl⟩
    cases hending with
    | @mk flags width precision letter hflags hwidth hprecision hletter =>
      obtain ⟨hflag, hdigit, hasterisk, hpoint⟩ := isLast_iff.mp (isLast_of_isConversion hletter)
      have hhead : ∃ next others, precision ++ letter :: after = next :: others ∧
          isFlag next = false ∧ isDigit next = false ∧ next ≠ '*' := by
        rcases hprecision with rfl | ⟨count, _, rfl⟩
        · exact ⟨letter, after, rfl, hflag, hdigit, hasterisk⟩
        · exact ⟨'.', count ++ letter :: after, rfl, by decide⟩
      obtain ⟨next, others, hnext, hnextFlag, hnextDigit, hnextAsterisk⟩ := hhead
      obtain ⟨left, hleft, hafterFlags⟩ := dropWhile_flags others hwidth hnextFlag
      simp only [List.append_assoc, List.singleton_append]
      rw [List.dropWhile_append_of_pos hflags, hnext, hafterFlags,
        afterCount_append hleft hnextDigit hnextAsterisk, ← hnext,
        afterPrecision_append hprecision hdigit hpoint]
      exact hletter

theorem isNameLetter_bracket : isNameLetter ')' = false := by decide

theorem startsField_iff : startsField letters = true ↔ ∃ field, Field field ∧ field <+: letters := by
  constructor
  · intro hstarts
    unfold startsField at hstarts
    split at hstarts
    · next rest =>
      split at hstarts
      · next after hafter =>
        rw [Bool.and_eq_true, endsField_iff] at hstarts
        obtain ⟨hopen, ending, hending, behind, rfl⟩ := hstarts
        have hrest : rest = rest.takeWhile isNameLetter ++ ')' :: (ending ++ behind) := by
          rw [← hafter, List.takeWhile_append_dropWhile]
        have hname : ∀ letter ∈ rest.takeWhile isNameLetter, isNameLetter letter = true :=
          fun _ => List.mem_takeWhile_imp
        refine ⟨_, .mk ?_ hname hending, behind, ?_⟩
        · intro hnone
          rw [hnone] at hrest
          simp [hrest] at hopen
        · simpa using hrest.symm
      · cases hstarts
    · cases hstarts
  · rintro ⟨field, hfield, behind, rfl⟩
    cases hfield with
    | @mk name ending hsome hname hending =>
      have hends : endsField (ending ++ behind) = true :=
        endsField_iff.mpr ⟨ending, hending, List.prefix_append _ _⟩
      obtain ⟨first, others, rfl⟩ := List.exists_cons_of_ne_nil hsome
      have hfirst : first ≠ ')' := by
        rintro rfl
        have hbracket := hname _ List.mem_cons_self
        rw [isNameLetter_bracket] at hbracket
        cases hbracket
      have hafter : (first :: others ++ ')' :: (ending ++ behind)).dropWhile isNameLetter =
          ')' :: (ending ++ behind) := by
        rw [List.dropWhile_append_of_pos hname,
          List.dropWhile_cons_of_neg (by simp [isNameLetter_bracket])]
      simp only [List.cons_append, List.append_assoc] at hafter ⊢
      simp [startsField, hafter, hends, hfirst]

/-- The scan finds a field exactly if one stands somewhere. -/
theorem hasField_iff : hasField letters = true ↔ ∃ field, Field field ∧ field <:+: letters := by
  induction letters with
  | nil =>
    simp only [hasField, Bool.false_eq_true, List.infix_nil, false_iff]
    rintro ⟨_, ⟨⟩, hnil⟩
    cases hnil
  | cons letter rest ih =>
    simp only [hasField, Bool.or_eq_true, startsField_iff, ih, List.infix_cons_iff, and_or_left,
      exists_or]

theorem isValid_iff (format : HostText) : isValid format = true ↔ WellFormed format := by
  rw [isValid, Bool.or_eq_true, HostText.isEmpty_iff, hasField_iff, WellFormed]

end Typeface.Cli.LogFormat
