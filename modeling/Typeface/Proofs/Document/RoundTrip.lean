import Mathlib
import Typeface.Cli
import Typeface.Proofs.Descriptor
import Typeface.Proofs.Document.Lossless
import Typeface.Proofs.Json

/-!
# The text of a font leads back to it

The JSON text of a font decodes to a mapping of its fields, which check as the
same font, and converting that font gives the descriptor that it was made of.
So the text that a descriptor with a text as family is printed as belongs to no
other such descriptor.
-/

namespace Typeface.Document

open Typeface.Number

/-- Codes have at most three digits, far fewer than a numeral may have. -/
theorem length_decimalDigits_of_code {code : Nat} (hcode : code < 1000) :
    (decimalDigits code).length ≤ digitLimit :=
  have hthree : (decimalDigits code).length ≤ 3 :=
    (length_decimalDigits_le_iff (by decide)).mpr hcode
  Nat.le_trans hthree (by decide)

theorem Weight.code_lt (weight : Weight) : weight.code < 1000 := by
  cases weight <;> decide

theorem Style.code_lt (style : Style) : style.code < 1000 := by
  cases style <;> decide

namespace Font

open Typeface.Json

def familyMember (family : String) : Member where
  name := "family"
  letters := (jsonText family).toList
  content := .text family
  shows := shows_text family

def weightMember (font : Font) : Member where
  name := "weight"
  letters := (decimal font.weight.code).toList
  content := .int font.weight.code
  shows := shows_decimal (length_decimalDigits_of_code font.weight.code_lt)

def styleMember (font : Font) : Member where
  name := "style"
  letters := (decimal font.style.code).toList
  content := .int font.style.code
  shows := shows_decimal (length_decimalDigits_of_code font.style.code_lt)

/-- The letters of a cached face, or of none. -/
def faceText : Option String → String
  | some face => jsonText face
  | none => "null"

theorem shows_faceText (face : Option String) :
    Shows (faceText face).toList (.ofOption .text face) := by
  cases face with
  | none => exact shows_null
  | some face => exact shows_text face

def faceMember (face : Option String) : Member where
  name := "cached_face_id"
  letters := (faceText face).toList
  content := .ofOption .text face
  shows := shows_faceText face

/-- The JSON text of a font of characters. -/
def plainText (font : Font) (family : String) (face : Option String) : String :=
  "\x7b\"family\":" ++ jsonText family ++
    ",\"weight\":" ++ decimal font.weight.code ++
    ",\"style\":" ++ decimal font.style.code ++
    ",\"cached_face_id\":" ++ faceText face ++ "\x7d"

theorem toList_plainText (font : Font) (family : String) (face : Option String) :
    (font.plainText family face).toList = '\x7b' ::
      memberLetters (familyMember family) [font.weightMember, font.styleMember, faceMember face] := by
  have hfamily : "\x7b\"family\":".toList = '\x7b' :: ((jsonText "family").toList ++ [':']) := rfl
  have hweight : ",\"weight\":".toList = ',' :: ((jsonText "weight").toList ++ [':']) := rfl
  have hstyle : ",\"style\":".toList = ',' :: ((jsonText "style").toList ++ [':']) := rfl
  have hface : ",\"cached_face_id\":".toList =
      ',' :: ((jsonText "cached_face_id").toList ++ [':']) := rfl
  have hend : "\x7d".toList = ['\x7d'] := rfl
  simp only [plainText, String.toList_append, hfamily, hweight, hstyle, hface, hend, memberLetters,
    Member.shown, familyMember, weightMember, styleMember, faceMember, List.append_assoc,
    List.cons_append, List.nil_append]

theorem jsonOf_eq_ok_iff {content : HostText} {text : String} :
    jsonOf content = .ok text ↔ ∃ plain : String, content = plain ∧ text = jsonText plain := by
  unfold jsonOf
  cases hplain : content.plain? with
  | some plain =>
    obtain rfl := HostText.plain?_eq_some_iff.mp hplain
    simp [eq_comm]
  | none =>
    refine iff_of_false nofun ?_
    rintro ⟨plain, rfl, _⟩
    simp at hplain

/-- A font has a JSON text exactly if it is made of characters. -/
theorem json_eq_ok_iff {font : Font} {text : String} :
    font.json = .ok text ↔ ∃ (family : String) (face : Option String),
      font.family = family ∧ font.cachedFace = face.map HostText.ofText ∧
        text = font.plainText family face := by
  constructor
  · intro hjson
    obtain ⟨familyText, hfamily, hrest⟩ := bind_eq_ok_iff.mp hjson
    obtain ⟨family, hplain, rfl⟩ := jsonOf_eq_ok_iff.mp hfamily
    cases hcached : font.cachedFace with
    | none =>
      rw [hcached] at hrest
      cases hrest
      exact ⟨family, none, hplain, rfl, rfl⟩
    | some cached =>
      rw [hcached] at hrest
      obtain ⟨faceText, hface, hwritten⟩ := bind_eq_ok_iff.mp hrest
      obtain ⟨known, rfl, rfl⟩ := jsonOf_eq_ok_iff.mp hface
      cases hwritten
      exact ⟨family, some known, hplain, rfl, rfl⟩
  · rintro ⟨family, face, hfamily, hface, rfl⟩
    have hfamilyText : jsonOf font.family = .ok (jsonText family) :=
      jsonOf_eq_ok_iff.mpr ⟨family, hfamily, rfl⟩
    cases face with
    | none => simp only [json, hfamilyText, hface, Option.map_none]; rfl
    | some face =>
      have hfaceText : jsonOf (HostText.ofText face) = .ok (jsonText face) :=
        jsonOf_eq_ok_iff.mpr ⟨face, rfl, rfl⟩
      simp only [json, hfamilyText, hface, Option.map_some, hfaceText]
      rfl

/-- The fields of a font as its JSON text has them. -/
def entries (font : Font) : List (Value × Value) :=
  [(.text "family", font.family.value), (.text "weight", .int font.weight.code),
    (.text "style", .int font.style.code),
    (.text "cached_face_id", .ofOption HostText.value font.cachedFace)]

theorem decode_json {font : Font} {text : String} (hjson : font.json = .ok text) (depth : Nat) :
    decode (depth + 1) text = .ok (.dict font.entries) := by
  obtain ⟨family, face, hfamily, hface, rfl⟩ := json_eq_ok_iff.mp hjson
  have hcached : (Value.ofOption .text face) = .ofOption HostText.value font.cachedFace := by
    rw [hface]
    cases face with
    | none => rfl
    | some face => exact (HostText.value_ofText face).symm
  have hmembers : (familyMember family :: [font.weightMember, font.styleMember, faceMember face]).map
      Member.entry = font.entries := by
    rw [entries, hfamily, HostText.value_ofText, ← hcached]
    rfl
  have hdistinct : Value.ofEntries font.entries = .dict font.entries := by
    simp [Value.ofEntries, Value.insertEntry, Value.equal, entries]
  rw [decode_object _ _ _ (font.toList_plainText family face), hmembers, hdistinct]

theorem ofFields_entries (font : Font) : ofFields (Value.fields font.entries) = .ok font := by
  rw [ofFields_eq_ok_iff]
  constructor
  case family => exact ⟨_, rfl, Coercion.text_value font.family⟩
  case weight => exact .inl ⟨_, rfl, rfl⟩
  case style => exact .inl ⟨_, rfl, rfl⟩
  case face => exact .inl ⟨_, rfl, Coercion.optional_text font.cachedFace⟩

/-- Two fonts of one text are the same font. -/
theorem json_injective {left right : Font} {text : String} (hleft : left.json = .ok text)
    (hright : right.json = .ok text) : left = right := by
  have hdecoded := decode_json hleft 0
  rw [decode_json hright 0, Except.ok.injEq, Value.dict.injEq] at hdecoded
  have hchecked := left.ofFields_entries
  rw [← hdecoded, right.ofFields_entries, Except.ok.injEq] at hchecked
  exact hchecked.symm

end Font

end Typeface.Document

namespace Typeface.Conversion

/-- A descriptor with a text as family has a form in documents, which converts back to it.  If the
text is made of characters, so is the form. -/
theorem toDocument_text (family : String) (weight : Weight) (style : Style) :
    ∃ font text, toDocument { family := .text family, weight, style } = (.ok font, []) ∧
      font.json = .ok text ∧
      ofDocument font.raw = (.ok { family := .text family, weight, style }, []) := by
  have hfamily : Coercion.text (.text family) = .ok family := rfl
  obtain ⟨font, hfont, hkept, hbears⟩ : ∃ font,
      toDocument { family := .text family, weight, style } = (.ok font, []) ∧
        font.family = family ∧ Bears font { family := .text family, weight, style } :=
    toDocument_of_text hfamily
  have htext := Document.Font.json_eq_ok_iff.mpr ⟨family, none, hkept, hbears.face, rfl⟩
  have hback := hbears.ofDocument_raw
  rw [hkept, HostText.value_ofText] at hback
  exact ⟨font, _, hfont, htext, hback⟩

theorem ofDocument_of_toDocument {descriptor : Descriptor} {font : Document.Font}
    (hfamily : descriptor.family.sort = "str") (hfont : (toDocument descriptor).1 = .ok font) :
    ofDocument font.raw = (.ok descriptor, []) := by
  rw [fst_toDocument_eq_ok_iff, toDocument_eq_ok_iff, Coercion.text_eq_ok_iff] at hfont
  obtain ⟨hspelled, hbears⟩ := hfont
  have htext : descriptor.family = font.family.value :=
    hspelled.resolve_right fun hrecast => hrecast.sort_ne hfamily
  rw [hbears.ofDocument_raw, ← htext]

end Typeface.Conversion

namespace Typeface.Cli

/-- The words that ask for a family in a weight and a style, whatever the family begins with. -/
def convertWords (family : String) (weight : Weight) (style : Style) : List String :=
  ["--weight", weight.name, "--style", style.name, "--", family]

def convertOpening (family : String) (weight : Weight) (style : Style) : Opening :=
  { verbose := false, config := none, topic := .convert, rest := convertWords family weight style }

theorem ofConvert_convertWords (family : String) (weight : Weight) (style : Style) :
    Command.ofConvert (convertWords family weight style) = .ok (.convert family weight style) := by
  cases weight <;> cases style <;> rfl

theorem ofLine_convertWords (files : FileTree) (family : String) (weight : Weight)
    (style : Style) :
    Opening.ofLine files ("convert" :: convertWords family weight style) =
      .ok (convertOpening family weight style) := rfl

variable {surroundings : Surroundings} {settings : AppSettings} {family text : String}
variable {weight : Weight} {style : Style} {font : Document.Font}

theorem run_convert (session : Session)
    (hprepare : prepare surroundings (convertOpening family weight style) = .ok settings)
    (hfont : Conversion.toDocument { family := .text family, weight, style } = (.ok font, []))
    (htext : font.json = .ok text) :
    (run surroundings session ("convert" :: convertWords family weight style)).exitCode = 0 ∧
      (run surroundings session ("convert" :: convertWords family weight style)).output =
        text ++ "\n" := by
  have hcommand : Command.ofLine surroundings.files .convert (convertWords family weight style) =
      .ok (.convert family weight style) := ofConvert_convertWords family weight style
  simp only [run, ofLine_convertWords, hprepare]
  simp only [convertOpening, hcommand, perform, convert, hfont, Except.bind, htext]
  exact ⟨rfl, rfl⟩

/-- Once the settings load, the command prints the JSON text of a font for any family, weight and
style.  The text decodes to a mapping that checks as the same font, and the font converts to the
descriptor with that family, weight and style.  Different descriptors with texts as families have
different texts, where they have any. -/
theorem convert_text_leads_back :
    (∀ (family : String) (weight : Weight) (style : Style) (surroundings : Surroundings)
        (session : Session) (settings : AppSettings),
      prepare surroundings (convertOpening family weight style) = .ok settings →
      ∃ made font text entries,
        Descriptor.make (.text family) (.weight weight) (.style style) = .ok made ∧
        Conversion.toDocument made = (.ok font, []) ∧ font.json = .ok text ∧
        (run surroundings session ("convert" :: convertWords family weight style)).exitCode = 0 ∧
        (run surroundings session ("convert" :: convertWords family weight style)).output =
          text ++ "\n" ∧
        (∀ depth, Json.decode (depth + 1) text = .ok (.dict entries)) ∧
        Document.Font.ofFields (Value.fields entries) = .ok font ∧
        ∃ restored, Conversion.ofDocument font.raw = (.ok restored, []) ∧ restored = made ∧
          restored.same made = true) ∧
    ∀ (left right : Descriptor) (leftFont rightFont : Document.Font) (leftText rightText : String),
      left.family.sort = "str" → right.family.sort = "str" →
      (Conversion.toDocument left).1 = .ok leftFont →
      (Conversion.toDocument right).1 = .ok rightFont →
      leftFont.json = .ok leftText → rightFont.json = .ok rightText →
      left ≠ right → leftText ≠ rightText := by
  constructor
  · intro family weight style surroundings session settings hprepare
    obtain ⟨font, text, hfont, htext, hback⟩ := Conversion.toDocument_text family weight style
    obtain ⟨hcode, houtput⟩ := run_convert session hprepare hfont htext
    exact ⟨_, font, text, font.entries, rfl, hfont, htext, hcode, houtput,
      Document.Font.decode_json htext, font.ofFields_entries, _, hback, rfl,
      Descriptor.equal_self_of_text rfl⟩
  · intro left right leftFont rightFont leftText rightText hleftFamily hrightFamily hleft hright
      hleftText hrightText hne htext
    subst htext
    have hfont : leftFont = rightFont := Document.Font.json_injective hleftText hrightText
    have hleftBack := Conversion.ofDocument_of_toDocument hleftFamily hleft
    have hrightBack := Conversion.ofDocument_of_toDocument hrightFamily hright
    rw [hfont, hrightBack, Prod.mk.injEq, Except.ok.injEq] at hleftBack
    exact hne hleftBack.1.symm

namespace Sample

/-- No variables, and an empty directory to work in. -/
def emptyWork : Surroundings :=
  { environment := [], files := { nodes := [(["work"], .directory)], working := ["work"] } }

/-- A quotation mark, a backslash, a control and a letter beyond ASCII. -/
def marks : String := "\"\\\x01é"

def marksText : String :=
  "\x7b\"family\":\"\\\"\\\\\\u0001é\",\"weight\":700,\"style\":1,\"cached_face_id\":null\x7d"

end Sample

theorem convert_text_leads_back_marks :
    (∃ entries, (run Sample.emptyWork (.opened [])
        ("convert" :: convertWords Sample.marks .bold .italic)).output = Sample.marksText ++ "\n" ∧
      ∀ depth, Json.decode (depth + 1) Sample.marksText = .ok (.dict entries)) ∧
    ∀ (leftFont rightFont : Document.Font) (leftText rightText : String),
      (Conversion.toDocument { family := .text "a", weight := .bold, style := .normal }).1 =
        .ok leftFont →
      (Conversion.toDocument { family := .text "a", weight := .heavy, style := .normal }).1 =
        .ok rightFont →
      leftFont.json = .ok leftText → rightFont.json = .ok rightText → leftText ≠ rightText := by
  constructor
  · have hprepare : ∃ settings, prepare Sample.emptyWork
        (convertOpening Sample.marks .bold .italic) = .ok settings := ⟨_, by cbv⟩
    obtain ⟨settings, hsettings⟩ := hprepare
    obtain ⟨_, _, text, entries, hmade, hfont, htext, _, houtput, hdecode, _⟩ :=
      convert_text_leads_back.1 Sample.marks .bold .italic Sample.emptyWork (.opened []) settings
        hsettings
    cases hmade
    cases hfont
    have hsample : Sample.marksText = text := Except.ok.inj (Eq.trans (by rfl) htext)
    subst hsample
    exact ⟨entries, houtput, hdecode⟩
  · intro leftFont rightFont leftText rightText hleft hright hleftText hrightText
    exact convert_text_leads_back.2 _ _ leftFont rightFont _ _ rfl rfl hleft hright hleftText
      hrightText (by simp)

end Typeface.Cli
