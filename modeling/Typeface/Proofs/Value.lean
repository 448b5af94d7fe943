import Typeface.Proofs.Text.Host
import Typeface.Value.Display
import Typeface.Value.Equality

/-!
# Texts as values

A text is given by its code points, so that it may hold surrogates.  A text
equals itself and no other value, it can be written into every message, and it
can be the key of a mapping.
-/

namespace Typeface.Value

theorem ofCodes_of_scalars {codes : List Nat} {letters : List Char}
    (hletters : codes.mapM Text.scalar? = some letters) :
    ofCodes codes = .text (String.ofList letters) := by
  unfold ofCodes
  split
  · next others hothers =>
    rw [hletters] at hothers
    cases hothers
    rfl
  · next hnone => simp [hletters] at hnone

theorem ofCodes_toNat (letters : List Char) :
    ofCodes (letters.map Char.toNat) = .text (String.ofList letters) :=
  ofCodes_of_scalars (Text.mapM_scalar?_toNat letters)

theorem ofCodes_codes (broken : BrokenText) : ofCodes broken.codes = .brokenText broken := by
  unfold ofCodes
  split
  · next letters hletters => simp [broken.broken] at hletters
  · rfl

theorem ofCodes_text (content : String) :
    ofCodes (content.toList.map Char.toNat) = .text content := by
  rw [ofCodes_toNat, String.ofList_toList]

theorem points_ofCodes (codes : List Nat) : points (.ofCodes codes) = .ok codes := by
  unfold ofCodes
  split
  · next letters hletters =>
    rw [← Text.toNat_of_mapM_scalar? hletters]
    simp [points, display, codesOf, Except.map]
  · rfl

theorem ofCodes_injective : Function.Injective ofCodes := by
  intro left right heq
  have hpoints := congrArg points heq
  rw [points_ofCodes, points_ofCodes] at hpoints
  exact Except.ok.inj hpoints

theorem display_ofCodes (codes : List Nat) :
    ∃ shown, Value.display (.ofCodes codes) = .ok shown := by
  unfold Value.ofCodes
  split
  · exact ⟨_, rfl⟩
  · exact ⟨_, rfl⟩

theorem spoken_ofCodes (codes : List Nat) : spoken (.ofCodes codes) = .ok { codes } := by
  rw [spoken, points_ofCodes]
  rfl

@[simp]
theorem spoken_text (content : String) : spoken (.text content) = .ok content := by
  rw [← ofCodes_text, spoken_ofCodes]
  rfl

/-- A value has no code points for the same reason for which it has no display. -/
theorem points_eq_error_iff {value : Value} {reason : Unwritten} :
    points value = .error reason ↔ display value = .error reason := by
  induction value using points.induct with
  | case1 codes => simp [points, display, written, isWritable]
  | case2 owner name number hnumber ih =>
    simp only [points, display, hnumber]
    cases hpoints : points name <;> cases hdisplay : display name <;> simp_all [Except.map]
  | case3 owner name title htitle ih =>
    simp only [points, display, htitle]
    cases hpoints : points name <;> cases hdisplay : display name <;> simp_all [Except.map]
  | case4 owner name hnumber htitle =>
    rw [points, display]
    split <;> simp_all
  | case5 family heft slant ih =>
    simp only [points, display]
    cases hpoints : points family <;> cases hdisplay : display family <;> simp_all [Except.map]
  | case6 value hbroken hitem hdescriptor =>
    rw [points]
    · cases display value <;> simp [Except.map]
    all_goals assumption

theorem spoken_eq_error_iff {value : Value} {reason : Unwritten} :
    spoken value = .error reason ↔ display value = .error reason := by
  rw [← points_eq_error_iff, spoken]
  cases points value <;> simp [Except.map]

/-- Two sorts of values go by the word for texts. -/
theorem cases_of_sort {value : Value} (hsort : value.sort = "str") :
    (∃ content, value = .text content) ∨ ∃ broken, value = .brokenText broken := by
  cases value with
  | text content => exact .inl ⟨content, rfl⟩
  | brokenText broken => exact .inr ⟨broken, rfl⟩
  | timestamp stamp =>
    rw [sort] at hsort
    split at hsort <;> simp at hsort
  | _ => simp [sort] at hsort

def IsText (value : Value) : Prop :=
  ∃ codes, value = .ofCodes codes

namespace IsText

variable {left right : Value}

theorem text (content : String) : IsText (.text content) :=
  ⟨content.toList.map Char.toNat, (ofCodes_text content).symm⟩

theorem cases (htext : IsText left) :
    (∃ content, left = .text content) ∨ ∃ broken, left = .brokenText broken := by
  obtain ⟨codes, rfl⟩ := htext
  unfold ofCodes
  split
  · exact .inl ⟨_, rfl⟩
  · exact .inr ⟨_, rfl⟩

/-- A text equals nothing but itself. -/
theorem equal_iff (htext : IsText left) : equal left right = true ↔ left = right := by
  rcases htext.cases with ⟨content, rfl⟩ | ⟨codes, rfl⟩ <;> cases right <;>
    simp [equal, numeric?]

theorem isKey (htext : IsText left) : left.isKey = true := by
  rcases htext.cases with ⟨content, rfl⟩ | ⟨codes, rfl⟩ <;> rfl

theorem areKeys {values : List Value} (htexts : ∀ value ∈ values, IsText value) :
    areKeys values = true := by
  induction values with
  | nil => rfl
  | cons value rest ih =>
    rw [List.forall_mem_cons] at htexts
    simp [Value.areKeys, htexts.1.isKey, ih htexts.2]

theorem isWritable (htext : IsText left) : left.isWritable = true := by
  rcases htext.cases with ⟨content, rfl⟩ | ⟨codes, rfl⟩ <;> rfl

theorem areWritable {values : List Value} (htexts : ∀ value ∈ values, IsText value) :
    areWritable values = true := by
  induction values with
  | nil => rfl
  | cons value rest ih =>
    rw [List.forall_mem_cons] at htexts
    simp [Value.areWritable, htexts.1.isWritable, ih htexts.2]

theorem spoken (htext : IsText left) : ∃ shown, left.spoken = .ok shown := by
  obtain ⟨codes, rfl⟩ := htext
  exact ⟨_, spoken_ofCodes codes⟩

end IsText

end Value

namespace HostText

variable {text left right : HostText}

@[simp]
theorem value_ofText (content : String) : (content : HostText).value = .text content :=
  Value.ofCodes_text content

theorem value_injective : Function.Injective HostText.value := by
  intro left right heq
  exact eq_of_codes_eq (Value.ofCodes_injective heq)

@[simp]
theorem value_inj : left.value = right.value ↔ left = right :=
  value_injective.eq_iff

theorem isText_value (text : HostText) : text.value.IsText :=
  ⟨text.codes, rfl⟩

@[simp]
theorem equal_value_iff {value : Value} : text.value.equal value = true ↔ text.value = value :=
  text.isText_value.equal_iff

theorem sort_value (text : HostText) : text.value.sort = "str" := by
  rcases text.isText_value.cases with ⟨content, hvalue⟩ | ⟨broken, hvalue⟩ <;>
    simp [hvalue, Value.sort]

theorem value_ne_null (text : HostText) : text.value ≠ .null := by
  rcases text.isText_value.cases with ⟨content, hvalue⟩ | ⟨broken, hvalue⟩ <;> simp [hvalue]

theorem null_equal_value (text : HostText) : Value.null.equal text.value = false := by
  rcases text.isText_value.cases with ⟨content, hvalue⟩ | ⟨broken, hvalue⟩ <;>
    simp [hvalue, Value.equal, Value.numeric?]

@[simp]
theorem hostText?_value (text : HostText) : text.value.hostText? = some text := by
  rw [value, Value.ofCodes]
  split
  · next letters hletters =>
    rw [Value.hostText?]
    apply congrArg some
    apply eq_of_codes_eq
    rw [codes_ofText, String.toList_ofList, Text.toNat_of_mapM_scalar? hletters]
  · rfl

theorem hostText?_eq_some_iff {value : Value} :
    value.hostText? = some text ↔ value = text.value := by
  constructor
  · intro hread
    cases value with
    | text content =>
      cases hread
      exact (value_ofText content).symm
    | brokenText broken =>
      cases hread
      exact (Value.ofCodes_codes broken).symm
    | _ => cases hread
  · rintro rfl
    exact hostText?_value text

@[simp]
theorem spoken_value (text : HostText) : text.value.spoken = .ok text :=
  Value.spoken_ofCodes text.codes

end HostText

end Typeface
