import Mathlib
import Typeface.Proofs.Checked
import Typeface.Settings.Client

/-!
# Accepted settings of the client

Whatever its sources are, a record of settings that is accepted is sound: owner
and repository are named, the address comes of a text with a web scheme, the
time limit and the size of pieces are positive.  Given back by name, the fields
of a sound record are accepted as they are, whatever other sources hold, if the
address still has its scheme.  No field depends on another: a record is accepted
as a whole exactly if each field is that is given by itself.
-/

namespace Typeface.ClientSettings

variable {value : Value} {fields : Fields} {settings : ClientSettings}

/-- What every accepted record of settings satisfies. -/
structure Sound (settings : ClientSettings) : Prop where
  owner : settings.owner ≠ ""
  repository : settings.repository ≠ ""
  address : ∃ text, hasWebScheme text = true ∧ withoutEndSlashes text = settings.apiUrl
  timeout : settings.timeout.isPositive = true
  chunkSize : 0 < settings.chunkSize

theorem serviceUrl_eq_ok_iff {url : HostText} :
    serviceUrl value = .ok url ↔ ∃ text, Coercion.text value = .ok text ∧
      hasWebScheme text = true ∧ withoutEndSlashes text = url := by
  rw [serviceUrl, bind_eq_ok_iff]
  refine exists_congr fun text => and_congr_right fun _ => ?_
  split <;> simp_all

theorem ofFields_eq_ok_iff :
    ofFields fields = .ok settings ↔
      Checked.defaulted fields "owner" Coercion.nonemptyText "fontident" = .ok settings.owner ∧
      Checked.defaulted fields "repo" Coercion.nonemptyText "fontident" = .ok settings.repository ∧
      Checked.defaulted fields "api_url" serviceUrl "https://api.github.com" =
        .ok settings.apiUrl ∧
      Checked.defaulted fields "api_version" Coercion.text "2022-11-28" =
        .ok settings.apiVersion ∧
      Checked.defaulted fields "user_agent" Coercion.text "fontident/0.1.0" =
        .ok settings.userAgent ∧
      Checked.defaulted fields "timeout_seconds" Coercion.positiveFloat defaultTimeout =
        .ok settings.timeout ∧
      Checked.defaulted fields "chunk_size" Coercion.positiveInteger 8192 =
        .ok settings.chunkSize ∧
      Checked.defaulted fields "show_progress" Coercion.truth true = .ok settings.showProgress := by
  cases settings
  simp only [ofFields, Checked.also_eq_ok_iff, Except.ok.injEq, existsAndEq, mk.injEq, and_assoc,
    exists_and_left, exists_eq_left', and_true]

/-- What a field comes to if this is given for it, and nothing for the others. -/
def reading (name : String) (given : Option Value) : Checked (Option Value) :=
  (ofFields (given.toList.map fun value => (name, value))).map fun settings =>
    settings.toFields.lookup name

/-- The settings where no source has any. -/
def defaults : ClientSettings :=
  { owner := "fontident", repository := "fontident", apiUrl := "https://api.github.com"
    apiVersion := "2022-11-28", userAgent := "fontident/0.1.0", timeout := defaultTimeout
    chunkSize := 8192, showProgress := true }

theorem reading_none {name : String} (hname : name ∈ fieldNames) :
    reading name none = .ok (defaults.toFields.lookup name) := by
  simp only [fieldNames, List.mem_cons, List.not_mem_nil, or_false] at hname
  rcases hname with rfl | rfl | rfl | rfl | rfl | rfl | rfl | rfl <;> rfl

/-- What a field of a name takes from a value that is given for it. -/
def taken (name : String) (value : Value) : Except Defect Value :=
  match name with
  | "owner" | "repo" => (Coercion.nonemptyText value).map .text
  | "api_url" => (serviceUrl value).map HostText.value
  | "timeout_seconds" => (Coercion.positiveFloat value).map .float
  | "chunk_size" => (Coercion.positiveInteger value).map .int
  | "show_progress" => (Coercion.truth value).map .bool
  | _ => (Coercion.text value).map HostText.value

theorem reading_some_of_taken {α : Type} {name : String} {coerce : Value → Except Defect α}
    (shown : α → Value) (htaken : taken name value = (coerce value).map shown)
    (hreading : ∀ checked, Checked.field name coerce value = checked →
      reading name (some value) = checked.map fun result => some (shown result)) :
    reading name (some value) = (Checked.field name (taken name) value).map some := by
  rw [hreading _ rfl, Checked.field, Checked.field, htaken]
  cases coerce value <;> rfl

theorem reading_some (value : Value) :
    ∀ name ∈ fieldNames,
      reading name (some value) = (Checked.field name (taken name) value).map some := by
  simp only [fieldNames, List.forall_mem_cons, List.not_mem_nil, false_imp_iff, implies_true,
    and_true]
  refine ⟨reading_some_of_taken .text rfl ?_, reading_some_of_taken .text rfl ?_,
    reading_some_of_taken HostText.value rfl ?_, reading_some_of_taken HostText.value rfl ?_,
    reading_some_of_taken HostText.value rfl ?_, reading_some_of_taken .float rfl ?_,
    reading_some_of_taken .int rfl ?_, reading_some_of_taken .bool rfl ?_⟩
  all_goals
    intro checked hfield
    cases checked <;>
      simp [reading, ofFields, Checked.defaulted, hfield, Checked.also, Except.map, toFields,
        List.lookup_cons]

theorem reading_eq_ok_iff {α : Type} {name : String} {coerce : Value → Except Defect α}
    {standIn result : α} (shown : α → Value) (hshown : Function.Injective shown)
    (hname : name ∈ fieldNames) (hstandIn : defaults.toFields.lookup name = some (shown standIn))
    (htaken : ∀ value, taken name value = (coerce value).map shown) :
    reading name (fields.lookup name) = .ok (some (shown result)) ↔
      Checked.defaulted fields name coerce standIn = .ok result := by
  cases hgiven : fields.lookup name with
  | none => simp [reading_none hname, hstandIn, Checked.defaulted, hgiven, hshown.eq_iff]
  | some value =>
    rw [reading_some value name hname, Checked.field, htaken]
    cases hvalue : coerce value <;>
      simp [Except.map, Checked.defaulted, Checked.field, hgiven, hvalue, hshown.eq_iff]

/-- A record is accepted exactly if each of its fields reads by itself, and holds what they read. -/
theorem ofFields_eq_ok_iff_reading :
    ofFields fields = .ok settings ↔
      ∀ name ∈ fieldNames,
        reading name (fields.lookup name) = .ok (settings.toFields.lookup name) := by
  have htext : Function.Injective Value.text := fun _ _ => Value.text.inj
  have hhost := HostText.value_injective
  have hfloat : Function.Injective Value.float := fun _ _ => Value.float.inj
  have hint : Function.Injective Value.int := fun _ _ => Value.int.inj
  have hbool : Function.Injective Value.bool := fun _ _ => Value.bool.inj
  rw [ofFields_eq_ok_iff]
  simp only [fieldNames, List.forall_mem_cons, List.not_mem_nil, false_imp_iff, implies_true,
    and_true]
  exact and_congr (reading_eq_ok_iff .text htext (by decide) rfl fun _ => rfl).symm <|
    and_congr (reading_eq_ok_iff .text htext (by decide) rfl fun _ => rfl).symm <|
    and_congr (reading_eq_ok_iff HostText.value hhost (by decide) rfl fun _ => rfl).symm <|
    and_congr (reading_eq_ok_iff HostText.value hhost (by decide) rfl fun _ => rfl).symm <|
    and_congr (reading_eq_ok_iff HostText.value hhost (by decide) rfl fun _ => rfl).symm <|
    and_congr (reading_eq_ok_iff .float hfloat (by decide) rfl fun _ => rfl).symm <|
    and_congr (reading_eq_ok_iff .int hint (by decide) rfl fun _ => rfl).symm
      (reading_eq_ok_iff .bool hbool (by decide) rfl fun _ => rfl).symm

theorem exists_reading_iff {name : String} {given : Option Value} :
    (∃ result, reading name given = .ok result) ↔
      ∃ settings, ofFields (given.toList.map fun value => (name, value)) = .ok settings := by
  rw [reading]
  cases ofFields (given.toList.map fun value => (name, value)) <;> simp [Except.map]

/-- Fields that read by themselves are accepted together. -/
theorem exists_ofFields_iff_reading :
    (∃ settings, ofFields fields = .ok settings) ↔
      ∀ name ∈ fieldNames, ∃ result, reading name (fields.lookup name) = .ok result := by
  constructor
  · rintro ⟨settings, haccepted⟩ name hname
    exact ⟨_, ofFields_eq_ok_iff_reading.mp haccepted name hname⟩
  · intro hread
    simp only [exists_reading_iff, ofFields_eq_ok_iff, fieldNames, List.forall_mem_cons,
      List.not_mem_nil, false_imp_iff, implies_true, and_true] at hread
    obtain ⟨⟨first, howner, _⟩, ⟨second, _, hrepository, _⟩, ⟨third, _, _, haddress, _⟩,
      ⟨fourth, _, _, _, hversion, _⟩, ⟨fifth, _, _, _, _, hagent, _⟩,
      ⟨sixth, _, _, _, _, _, htimeout, _⟩, ⟨seventh, _, _, _, _, _, _, hchunk, _⟩,
      ⟨eighth, _, _, _, _, _, _, _, hprogress⟩⟩ := hread
    rw [Checked.defaulted_alone] at howner hrepository haddress hversion hagent
    rw [Checked.defaulted_alone] at htimeout hchunk hprogress
    exact ⟨⟨first.owner, second.repository, third.apiUrl, fourth.apiVersion, fifth.userAgent,
      sixth.timeout, seventh.chunkSize, eighth.showProgress⟩, ofFields_eq_ok_iff.mpr
      ⟨howner, hrepository, haddress, hversion, hagent, htimeout, hchunk, hprogress⟩⟩

theorem sound_of_ofFields (haccepted : ofFields fields = .ok settings) : Sound settings := by
  obtain ⟨howner, hrepository, haddress, _, _, htimeout, hchunk, _⟩ :=
    ofFields_eq_ok_iff.mp haccepted
  have hdefault : withoutEndSlashes "https://api.github.com" =
      ("https://api.github.com" : HostText) := by decide
  constructor
  case owner =>
    exact Checked.defaulted_satisfies (· ≠ "") howner (by decide)
      fun _ _ => Coercion.nonemptyText_ne
  case repository =>
    exact Checked.defaulted_satisfies (· ≠ "") hrepository (by decide)
      fun _ _ => Coercion.nonemptyText_ne
  case address =>
    exact Checked.defaulted_satisfies
      (fun url => ∃ text : HostText, hasWebScheme text = true ∧ withoutEndSlashes text = url)
      haddress
      ⟨_, by decide, hdefault⟩
      fun _ _ hspelled => (serviceUrl_eq_ok_iff.mp hspelled).imp fun _ htext => htext.2
  case timeout =>
    exact Checked.defaulted_satisfies (·.isPositive = true) htimeout (by decide)
      fun _ _ => Coercion.positiveFloat_isPositive
  case chunkSize =>
    exact Checked.defaulted_satisfies (0 < ·) hchunk (by decide)
      fun _ _ => Coercion.positiveInteger_pos

/-- The fields of a sound record, with some address in the place of its own, are accepted as the
record exactly if the address comes to its own. -/
theorem ofFields_readdressed_iff {address : HostText} (hsound : Sound settings) :
    ofFields { settings with apiUrl := address }.toFields = .ok settings ↔
      serviceUrl address.value = .ok settings.apiUrl := by
  have howner : Coercion.nonemptyText (.text settings.owner) = .ok settings.owner := by
    simp [Coercion.nonemptyText, Coercion.text, hsound.owner, bind, Except.bind]
  have hrepository : Coercion.nonemptyText (.text settings.repository) =
      .ok settings.repository := by
    simp [Coercion.nonemptyText, Coercion.text, hsound.repository, bind, Except.bind]
  have htimeout : Coercion.positiveFloat (.float settings.timeout) = .ok settings.timeout := by
    simp [Coercion.positiveFloat, Coercion.float, hsound.timeout, bind, Except.bind]
  have hchunk : Coercion.positiveInteger (.int settings.chunkSize) = .ok settings.chunkSize := by
    simp [Coercion.positiveInteger, Coercion.comparable, Coercion.integer, hsound.chunkSize, bind,
      Except.bind]
  rw [ofFields_eq_ok_iff]
  constructor
  · rintro ⟨_, _, haddress, _⟩
    exact Checked.field_eq_ok_iff.mp haddress
  · intro haddress
    exact ⟨Checked.field_eq_ok_iff.mpr howner, Checked.field_eq_ok_iff.mpr hrepository,
      Checked.field_eq_ok_iff.mpr haddress,
      Checked.field_eq_ok_iff.mpr (Coercion.text_value settings.apiVersion),
      Checked.field_eq_ok_iff.mpr (Coercion.text_value settings.userAgent),
      Checked.field_eq_ok_iff.mpr htimeout, Checked.field_eq_ok_iff.mpr hchunk, rfl⟩

/-- The fields of a sound record are accepted unchanged exactly if its address is. -/
theorem ofFields_toFields_iff (hsound : Sound settings) :
    ofFields settings.toFields = .ok settings ↔
      serviceUrl settings.apiUrl.value = .ok settings.apiUrl :=
  ofFields_readdressed_iff hsound

theorem load_eq_ok_iff {surroundings : Surroundings} {given : Fields} {choice : DotenvChoice} :
    load surroundings given choice = .ok settings ↔
      ∃ sources, Sources.gather stem surroundings given choice = .ok sources ∧
        ofFields (sources.fields fieldNames) = .ok settings := by
  simp only [load, bind_eq_ok_iff, Checked.orFail_eq_ok_iff]

/-- Fields given by name leave nothing to the other sources, which must be readable all the same. -/
theorem load_toFields (surroundings : Surroundings) (settings : ClientSettings)
    (choice : DotenvChoice) :
    load surroundings settings.toFields choice =
      (surroundings.dotenv choice).bind fun _ => (ofFields settings.toFields).orFail := by
  have hchoice : DotenvChoice.ofGiven settings.toFields choice = .ok choice := rfl
  have hknown : Sources.knowsOptions settings.toFields = true := by
    simp [Sources.knowsOptions, toFields]
  cases hdotenv : surroundings.dotenv choice with
  | error failure =>
    simp [load, Sources.gather, hknown, Sources.gatherDescribed, hchoice, hdotenv, bind,
      Except.bind]
  | ok held =>
    have hfields : ∀ sources : Sources, sources.given = settings.toFields →
        sources.fields fieldNames = settings.toFields := by
      intro sources hgiven
      simp only [Sources.fields, Sources.value?, Sources.given?, hgiven]
      rfl
    obtain ⟨sources, hgather, hgiven⟩ :
        ∃ sources, Sources.gather stem surroundings settings.toFields choice = .ok sources ∧
          sources.given = settings.toFields := by
      simp only [Sources.gather, hknown, if_true, Sources.gatherDescribed, hchoice, hdotenv, bind,
        Except.bind]
      exact ⟨_, rfl, rfl⟩
    simp only [load, hgather, hfields sources hgiven, bind, Except.bind]

theorem load_toFields_iff {surroundings : Surroundings} {choice : DotenvChoice}
    (hsound : Sound settings) :
    load surroundings settings.toFields choice = .ok settings ↔
      (∃ held, surroundings.dotenv choice = .ok held) ∧
        serviceUrl settings.apiUrl.value = .ok settings.apiUrl := by
  rw [load_toFields, ← ofFields_toFields_iff hsound]
  cases surroundings.dotenv choice <;> simp [Except.bind, Checked.orFail_eq_ok_iff]

end Typeface.ClientSettings
