import Typeface.Text.Host

/-!
# Host texts that are made of characters

A text of characters is a host text, and it is found again in the code points.
Joining texts and joining their code points is the same.
-/

namespace Typeface

namespace Text

theorem scalar?_toNat (letter : Char) : scalar? letter.toNat = some letter := by
  have hvalid : letter.toNat.isValidChar := letter.valid
  rw [scalar?, dif_pos hvalid]
  rfl

theorem toNat_of_scalar? {code : Nat} {letter : Char} (hletter : scalar? code = some letter) :
    letter.toNat = code := by
  rw [scalar?] at hletter
  by_cases hvalid : code.isValidChar
  · rw [dif_pos hvalid] at hletter
    obtain rfl := Option.some.inj hletter
    rfl
  · rw [dif_neg hvalid] at hletter
    cases hletter

theorem mapM_scalar?_toNat (letters : List Char) :
    (letters.map Char.toNat).mapM scalar? = some letters := by
  induction letters with
  | nil => rfl
  | cons first others ih => simp [scalar?_toNat, ih]

theorem toNat_of_mapM_scalar? {codes : List Nat} {letters : List Char}
    (hletters : codes.mapM scalar? = some letters) : letters.map Char.toNat = codes := by
  induction codes generalizing letters with
  | nil =>
    cases hletters
    rfl
  | cons code codes ih =>
    simp only [List.mapM_cons, bind, Option.bind_eq_some_iff, pure, Option.some.injEq] at hletters
    obtain ⟨letter, hletter, others, hothers, rfl⟩ := hletters
    rw [List.map_cons, toNat_of_scalar? hletter, ih hothers]

end Text

namespace HostText

variable {text left right : HostText} {content : String}

theorem eq_of_codes_eq (hcodes : left.codes = right.codes) : left = right := by
  cases left
  cases right
  exact congrArg HostText.mk hcodes

@[simp]
theorem codes_append (left right : HostText) : (left ++ right).codes = left.codes ++ right.codes :=
  rfl

@[simp]
theorem codes_ofText (content : String) :
    (content : HostText).codes = content.toList.map Char.toNat := rfl

theorem append_assoc (first second third : HostText) :
    first ++ second ++ third = first ++ (second ++ third) :=
  eq_of_codes_eq (List.append_assoc first.codes second.codes third.codes)

theorem append_empty (text : HostText) : text ++ ("" : HostText) = text :=
  eq_of_codes_eq (List.append_nil text.codes)

theorem ofText_append (first second : String) :
    ofText (first ++ second) = ofText first ++ ofText second := by
  apply eq_of_codes_eq
  simp [String.toList_append]

@[simp]
theorem plain?_ofText (content : String) : (content : HostText).plain? = some content := by
  rw [plain?, codes_ofText, Text.mapM_scalar?_toNat, Option.map_some, String.ofList_toList]

@[simp]
theorem ofText_inj {first second : String} : ofText first = ofText second ↔ first = second := by
  constructor
  · intro heq
    have hplain := congrArg plain? heq
    rw [plain?_ofText, plain?_ofText] at hplain
    exact Option.some.inj hplain
  · exact congrArg ofText

theorem plain?_eq_some_iff : text.plain? = some content ↔ text = content := by
  constructor
  · intro hplain
    obtain ⟨letters, hletters, rfl⟩ := Option.map_eq_some_iff.mp hplain
    apply eq_of_codes_eq
    rw [codes_ofText, String.toList_ofList, Text.toNat_of_mapM_scalar? hletters]
  · rintro rfl
    exact plain?_ofText content

/-- Texts are made of characters together if each is. -/
theorem plain?_append (left right : HostText) :
    (left ++ right).plain? = left.plain?.bind fun first => right.plain?.map (first ++ ·) := by
  simp only [plain?, codes_append, List.mapM_append]
  cases left.codes.mapM Text.scalar? with
  | none => rfl
  | some first =>
    cases right.codes.mapM Text.scalar? with
    | none => rfl
    | some second => simp

theorem isEmpty_iff : text.isEmpty = true ↔ text = "" := by
  rw [isEmpty, List.isEmpty_iff]
  exact ⟨eq_of_codes_eq, congrArg HostText.codes⟩

@[simp]
theorem reported_ofText (content : String) : (content : HostText).reported = content := by
  simp [reported, List.flatMap_map, Text.scalar?_toNat]

/-! ## Names in bytes -/

theorem toNat_toUInt8 {value : Nat} (hvalue : value < 0x100) : value.toUInt8.toNat = value := by
  rw [Nat.toUInt8, UInt8.toNat_ofNat']
  omega

/-- A character beyond ASCII begins with a byte beyond it. -/
theorem exists_lead_utf8Bytes {code : Nat} (hbeyond : 0x80 ≤ code) (hcode : code < 0x110000) :
    ∃ lead rest, utf8Bytes code = lead.toUInt8 :: rest ∧ 0x80 ≤ lead ∧ lead < 0x100 := by
  have hascii : ¬ code < 0x80 := by omega
  by_cases htwo : code < 0x800
  · refine ⟨0xC0 + code / 0x40, [trailing code], ?_, by omega, by omega⟩
    rw [utf8Bytes, if_neg hascii, if_pos htwo]
  by_cases hthree : code < 0x10000
  · refine ⟨0xE0 + code / 0x1000, [trailing (code / 0x40), trailing code], ?_, by omega, by omega⟩
    rw [utf8Bytes, if_neg hascii, if_neg htwo, if_pos hthree]
  · refine ⟨0xF0 + code / 0x40000,
      [trailing (code / 0x1000), trailing (code / 0x40), trailing code], ?_, by omega, by omega⟩
    rw [utf8Bytes, if_neg hascii, if_neg htwo, if_neg hthree]

/-- So does a surrogate that stands for a byte, which is that byte. -/
theorem exists_lead_nameBytes? {code : Nat} {bytes : Text.Bytes}
    (hbytes : nameBytes? code = some bytes) (hbeyond : 0x80 ≤ code) :
    ∃ lead rest, bytes = lead.toUInt8 :: rest ∧ 0x80 ≤ lead ∧ lead < 0x100 := by
  rw [nameBytes?] at hbytes
  by_cases hsurrogate : 0xDC80 ≤ code ∧ code ≤ 0xDCFF
  · rw [if_pos hsurrogate] at hbytes
    cases hbytes
    exact ⟨code - 0xDC00, [], rfl, by omega, by omega⟩
  rw [if_neg hsurrogate] at hbytes
  by_cases hvalid : code.isValidChar
  · rw [if_pos hvalid] at hbytes
    cases hbytes
    have hcode : code < 0x110000 := by
      rcases hvalid with hlow | ⟨_, hhigh⟩ <;> omega
    exact exists_lead_utf8Bytes hbeyond hcode
  · rw [if_neg hvalid] at hbytes
    cases hbytes

theorem nameBytes?_of_ascii {code : Nat} (hascii : code < 0x80) :
    nameBytes? code = some [code.toUInt8] := by
  have hsurrogate : ¬ (0xDC80 ≤ code ∧ code ≤ 0xDCFF) := by omega
  have hvalid : code.isValidChar := .inl (by omega)
  rw [nameBytes?, if_neg hsurrogate, if_pos hvalid, utf8Bytes, if_pos hascii]

/-- Only a character of ASCII has but small bytes, and it has one. -/
theorem nameBytes?_of_small {code : Nat} {bytes : Text.Bytes}
    (hbytes : nameBytes? code = some bytes) (hsmall : ∀ byte ∈ bytes, byte.toNat < 0x80) :
    bytes.map UInt8.toNat = [code] := by
  by_cases hascii : code < 0x80
  · rw [nameBytes?_of_ascii hascii] at hbytes
    cases hbytes
    rw [List.map_singleton, toNat_toUInt8 (by omega)]
  · obtain ⟨lead, rest, rfl, hlarge, hbyte⟩ := exists_lead_nameBytes? hbytes (by omega)
    have hlead := hsmall _ List.mem_cons_self
    rw [toNat_toUInt8 hbyte] at hlead
    omega

/-- A text whose bytes are small is the text of these bytes. -/
theorem codes_of_bytes? {bytes : Text.Bytes} (hbytes : text.bytes? = some bytes)
    (hsmall : ∀ byte ∈ bytes, byte.toNat < 0x80) : text.codes = bytes.map UInt8.toNat := by
  obtain ⟨pieces, hpieces, rfl⟩ := Option.map_eq_some_iff.mp hbytes
  clear hbytes
  generalize text.codes = codes at hpieces
  induction codes generalizing pieces with
  | nil =>
    cases hpieces
    rfl
  | cons code rest ih =>
    simp only [List.mapM_cons, bind, Option.bind_eq_some_iff, pure, Option.some.injEq] at hpieces
    obtain ⟨first, hfirst, others, hothers, rfl⟩ := hpieces
    rw [List.flatten_cons] at hsmall ⊢
    have hcode := nameBytes?_of_small hfirst fun byte hbyte =>
      hsmall byte (List.mem_append_left _ hbyte)
    have hrest := ih others (fun byte hbyte => hsmall byte (List.mem_append_right _ hbyte)) hothers
    rw [List.map_append, hcode, ← hrest, List.singleton_append]

end HostText

end Typeface
