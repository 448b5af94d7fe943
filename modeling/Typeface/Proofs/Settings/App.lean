import Mathlib
import Typeface.Proofs.Settings.Routes
import Typeface.Proofs.Settings.Sources

/-!
# Accepted settings of the application

Three fields of the settings of the application are its own; each is read by
itself, from the same sources.  The fourth holds the settings of the client,
which are loaded from what the sources have for them.  The settings of the
application come out exactly if both do.
-/

namespace Typeface.AppSettings

variable {surroundings : Surroundings} {sources : Sources} {app : AppSettings} {depth : Nat}

/-- The names of the fields that are the application's own. -/
def ownNames : List String := ["environment", "log_level", "log_format"]

/-- The application's own field of a name. -/
def own (app : AppSettings) : String → HostText
  | "environment" => app.environment
  | "log_level" => app.logLevel
  | _ => app.logFormat

/-- What a field of the application's own comes to if this is given for it. -/
def ownReading (name : String) (given : Option Value) : Checked HostText :=
  let fields : Fields := given.toList.map fun value => (name, value)
  match name with
  | "environment" => Checked.defaulted fields name Coercion.text "development"
  | "log_level" => (Checked.defaulted fields name levelName "INFO").map HostText.ofText
  | _ => Checked.defaulted fields name Coercion.text defaultLogFormat

theorem frameOf_eq_ok_iff {frame : ClientSettings → AppSettings} :
    frameOf sources = .ok frame ↔
      ∃ environment level format,
        ownReading "environment" (sources.value? "environment") = .ok environment ∧
        ownReading "log_level" (sources.value? "log_level") = .ok (HostText.ofText level) ∧
        ownReading "log_format" (sources.value? "log_format") = .ok format ∧
        AppSettings.mk environment level format = frame := by
  have hlookup : ∀ name ∈ ownNames, sources.value? name = (sources.fields ownNames).lookup name := by
    intro name hname
    rw [Sources.lookup_fields, if_pos hname]
  rw [hlookup "environment" (by decide), hlookup "log_level" (by decide),
    hlookup "log_format" (by decide)]
  simp only [ownReading, map_eq_ok_iff, HostText.ofText_inj, exists_eq_right,
    Checked.defaulted_alone, frameOf, Checked.also_eq_ok_iff, Except.ok.injEq]
  constructor
  · rintro ⟨_, format, ⟨_, level, ⟨_, environment, rfl, henvironment, rfl⟩, hlevel, rfl⟩, hformat,
      rfl⟩
    exact ⟨environment, level, format, henvironment, hlevel, hformat, rfl⟩
  · rintro ⟨environment, level, format, henvironment, hlevel, hformat, rfl⟩
    exact ⟨_, format, ⟨_, level, ⟨_, environment, rfl, henvironment, rfl⟩, hlevel, rfl⟩, hformat,
      rfl⟩

/-- The frame fits settings exactly if each field of the application's own reads to what they
have. -/
theorem exists_frameOf_iff :
    (∃ frame, frameOf sources = .ok frame ∧ frame app.releases = app) ↔
      ∀ name ∈ ownNames, ownReading name (sources.value? name) = .ok (app.own name) := by
  simp only [frameOf_eq_ok_iff, ownNames, List.forall_mem_cons, List.not_mem_nil, false_imp_iff,
    implies_true, and_true]
  constructor
  · rintro ⟨_, ⟨environment, level, format, henvironment, hlevel, hformat, rfl⟩, happ⟩
    rw [← happ]
    exact ⟨henvironment, hlevel, hformat⟩
  · rintro ⟨henvironment, hlevel, hformat⟩
    exact ⟨_, ⟨_, _, _, henvironment, hlevel, hformat, rfl⟩, rfl⟩

/-- Fields that read by themselves make up settings of the application with any of the client. -/
theorem exists_own {given : String → Option Value}
    (hown : ∀ name ∈ ownNames, ∃ result, ownReading name (given name) = .ok result)
    (settings : ClientSettings) :
    ∃ app : AppSettings, app.releases = settings ∧
      ∀ name ∈ ownNames, ownReading name (given name) = .ok (app.own name) := by
  simp only [ownNames, List.forall_mem_cons] at hown
  obtain ⟨⟨environment, henvironment⟩, ⟨_, hlevel⟩, ⟨format, hformat⟩, _⟩ := hown
  obtain ⟨level, _, rfl⟩ := map_eq_ok_iff.mp hlevel
  refine ⟨⟨environment, level, format, settings⟩, rfl, ?_⟩
  simp only [ownNames, List.forall_mem_cons]
  exact ⟨henvironment, hlevel, hformat, nofun⟩

/-- Settings of the application are loaded exactly if their own fields are read and the settings of
the client are loaded. -/
theorem load_eq_ok_iff_own {given : Fields} {choice : DotenvChoice} :
    load surroundings given choice = .ok app ↔
      ∃ sources, Sources.gather stem surroundings given choice = .ok sources ∧
        (∃ value, nestedValue surroundings.jsonDepth sources = .ok value ∧
          releasesField surroundings value = .ok (.ok app.releases)) ∧
        ∀ name ∈ ownNames, ownReading name (sources.value? name) = .ok (app.own name) := by
  simp only [load_eq, bind_eq_ok_iff, Checked.orFail_eq_ok_iff, Checked.also_eq_ok_iff]
  apply exists_congr
  intro sources
  apply and_congr_right
  intro _
  rw [← exists_frameOf_iff]
  constructor
  · rintro ⟨value, hvalue, _, hreleases, frame, settings, hframe, rfl, rfl⟩
    rw [releases_of_frameOf hframe]
    exact ⟨⟨value, hvalue, hreleases⟩, frame, hframe, rfl⟩
  · rintro ⟨⟨value, hvalue, hreleases⟩, frame, hframe, happ⟩
    exact ⟨value, hvalue, _, hreleases, frame, app.releases, hframe, rfl, happ⟩

/-- Where no variable gives them as a mapping, the settings of the client are as they are given. -/
theorem nestedValue_of_heldBy?_eq_none
    (henvironment : sources.heldBy? sources.environment "releases" = none)
    (hdotenv : sources.heldBy? sources.dotenv "releases" = none) :
    nestedValue depth sources = .ok (sources.given? "releases") := by
  rw [nestedValue, henvironment, hdotenv]
  cases sources.given? "releases" <;> rfl

theorem nestedValue_plain {given : Fields} {held : Variables}
    (hexported : surroundings.exported? "APP_RELEASES" = none)
    (hheld : held.find? .anyCase "APP_RELEASES" = none) :
    nestedValue depth (Sources.plain stem surroundings given held) =
      .ok ((Sources.plain stem surroundings given held).given? "releases") := by
  -- The look-up spells the name of the field as it is declared, in small letters.
  have hname : SameName (stem ++ "releases") "APP_RELEASES" := by decide
  have hinEnvironment :
      (Variables.ofEnvironment surroundings.environment).find? .anyCase (stem ++ "releases") =
        none :=
    calc
      _ = surroundings.exported? "APP_RELEASES" := Variables.find?_of_sameName hname
      _ = none := hexported
  have hinDotenv : held.find? .anyCase (stem ++ "releases") = none :=
    calc
      _ = held.find? .anyCase "APP_RELEASES" := Variables.find?_of_sameName hname
      _ = none := hheld
  exact nestedValue_of_heldBy?_eq_none hinEnvironment hinDotenv

end Typeface.AppSettings
